import Mathlib.Data.List.TakeDrop
import V4l2Capture.Library.Traced

/-!
# Replacing a statistics file

`write_atomic_text_file` writes a temporary file next to its target and renames it. The
outcome of each system call is given by `WriteCalls`. A reader must never find anything but
the old file or the new one, and `writeAtomicTextFile_atomic_iff` says which outcomes break
that.
-/
namespace V4l2Capture.Stats

open Traced Program

/-- The contents of the files, by their path. Different paths are different files: `path` and
`path.tmp` are no links to one another. -/
abbrev FileSystem := String → Option (List UInt8)

namespace FileSystem

def write (fs : FileSystem) (path : String) (content : List UInt8) : FileSystem :=
  Function.update fs path (some content)

def remove (fs : FileSystem) (path : String) : FileSystem :=
  Function.update fs path none

/-- `rename` replaces its target in one step. -/
def rename (fs : FileSystem) (source target : String) : FileSystem :=
  Function.update (Function.update fs target (fs source)) source none

variable (fs : FileSystem) {path other : String} (content : List UInt8)

@[simp] theorem write_same : fs.write path content path = some content := by
  simp [write]

@[simp] theorem write_other (distinct : path ≠ other) :
    fs.write other content path = fs path := by
  simp [write, distinct]

@[simp] theorem remove_same : fs.remove path path = none := by
  simp [remove]

@[simp] theorem remove_other (distinct : path ≠ other) : fs.remove other path = fs path := by
  simp [remove, distinct]

@[simp] theorem rename_target (distinct : path ≠ other) :
    fs.rename other path path = fs other := by
  simp [rename, distinct]

end FileSystem

/-- The outcomes of the system calls of one `write_atomic_text_file`. An error is given by
its message. -/
structure WriteCalls where
  createDirectories : Option String
  openTemp : Bool
  /-- How many bytes `write` brings to the file; the rest stays in the buffer. -/
  written : Nat
  writeFails : Bool
  /-- How many bytes the file holds behind the flush in the destructor of the stream. -/
  flushed : Nat
  rename : Option String
  remove : Bool
  renameAgain : Option String
  deriving DecidableEq, Repr

def tempPath (path : String) : String := path ++ ".tmp"

/-- The block that owns the stream. The destructor closes it behind a failed write as well,
and nobody looks at the outcome. -/
def writeTemp (path : String) (text : List UInt8) (calls : WriteCalls) :
    Program FileSystem Unit := do
  let temp := tempPath path
  if calls.openTemp then
    step fun fs => fs.write temp []
    step fun fs => fs.write temp (text.take calls.written)
    step fun fs => fs.write temp (text.take calls.flushed)
    if calls.writeFails then
      fail ("Failed to write temporary stats file: " ++ temp)
  else fail ("Failed to open temporary stats file: " ++ temp)

/-- The renaming, which removes the target and is tried again when it fails. -/
def replaceTarget (path : String) (calls : WriteCalls) : Program FileSystem Unit := do
  let temp := tempPath path
  match calls.rename with
  | none => step fun fs => fs.rename temp path
  | some _ =>
    step fun fs => if calls.remove then fs.remove path else fs
    match calls.renameAgain with
    | none => step fun fs => fs.rename temp path
    | some message => fail ("Failed to atomically replace stats file " ++ path ++ ": " ++ message)

def createParent (path : String) (calls : WriteCalls) : Program FileSystem Unit :=
  -- `parent_path` is empty for a path without a separator.
  if '/' ∈ path.toList then
    match calls.createDirectories with
    | none => pure ()
    | some message => fail message
  else pure ()

def writeAtomicTextFile (path : String) (text : List UInt8) (calls : WriteCalls) :
    Program FileSystem Unit := do
  if path = "" then fail "stats output path must not be empty"
  else
    createParent path calls
    writeTemp path text calls
    replaceTarget path calls

/-! ### What a reader of the target finds -/

/-- At every moment the old content or the new text, behind a return the new text, behind an
exception the old content. -/
def WritesAtomically (fs : FileSystem) (path : String) (text : List UInt8) (calls : WriteCalls) :
    Prop :=
  wp (writeAtomicTextFile path text calls)
    (fun now => now path = fs path ∨ now path = some text)
    (fun _ after => after path = some text) (fun _ after => after path = fs path) fs

/-- The calls before the renaming succeed, as far as they are checked. -/
structure WriteCalls.TempWritten (calls : WriteCalls) (path : String) : Prop where
  named : path ≠ ""
  directories : '/' ∈ path.toList → calls.createDirectories = none
  opened : calls.openTemp = true
  written : calls.writeFails = false

/-- What is renamed is the whole text, and nothing is removed that was there. -/
structure WriteCalls.Replaces (calls : WriteCalls) (fs : FileSystem) (path : String)
    (text : List UInt8) : Prop where
  complete : calls.rename = none ∨ calls.renameAgain = none → text.length ≤ calls.flushed
  kept : calls.rename ≠ none → calls.remove = true → fs path = none

/-- What the temporary file holds when its stream is gone. -/
def afterTemp (fs : FileSystem) (path : String) (text : List UInt8) (calls : WriteCalls) :
    FileSystem :=
  ((fs.write (tempPath path) []).write (tempPath path) (text.take calls.written)).write
    (tempPath path) (text.take calls.flushed)

theorem path_ne_tempPath (path : String) : path ≠ tempPath path := by
  intro same
  have lengths := congrArg String.length same
  simp [tempPath] at lengths

section Specs

variable {always : FileSystem → Prop} {returns : Unit → FileSystem → Prop}
  {throws : String → FileSystem → Prop} {fs : FileSystem} {path : String} {text : List UInt8}
  {calls : WriteCalls}

theorem wp_createParent (directories : '/' ∈ path.toList → calls.createDirectories = none) :
    wp (createParent path calls) always returns throws fs ↔ returns () fs := by
  rw [createParent]
  by_cases separated : '/' ∈ path.toList
  · rw [if_pos separated, directories separated]
    exact wp_pure ()
  · rw [if_neg separated]
    exact wp_pure ()

theorem wp_createParent_fails
    (directories : ¬ ('/' ∈ path.toList → calls.createDirectories = none))
    (thrown : ∀ message, throws message fs) :
    wp (createParent path calls) always returns throws fs := by
  obtain ⟨separated, failed⟩ := Classical.not_imp.mp directories
  rw [createParent, if_pos separated]
  cases created : calls.createDirectories with
  | none => exact absurd created failed
  | some message => exact (wp_fail message).mpr (thrown message)

/-- Writing the temporary file leaves the target alone at each of its moments. -/
theorem wp_writeTemp (target : Option (List UInt8) → Prop) :
    wp (writeTemp path text calls) (fun now => target (now path)) returns throws fs ↔
      if calls.openTemp then
        target (fs path) ∧
          if calls.writeFails then
            throws ("Failed to write temporary stats file: " ++ tempPath path)
              (afterTemp fs path text calls)
          else returns () (afterTemp fs path text calls)
      else throws ("Failed to open temporary stats file: " ++ tempPath path) fs := by
  have distinct := path_ne_tempPath path
  rw [writeTemp]
  by_cases opened : calls.openTemp = true
  · simp only [opened, if_true, wp_bind, wp_step, FileSystem.write_other _ _ distinct]
    by_cases failed : calls.writeFails = true
    · simp [failed, afterTemp]
    · simp [failed, afterTemp]
  · simp [opened]

/-- A text that was written in part must not be renamed, nor a target removed that is there. -/
theorem wp_replaceTarget {content : List UInt8} {now : FileSystem}
    (unchanged : now path = fs path) (temp : now (tempPath path) = some content) :
    wp (replaceTarget path calls) (fun now => now path = fs path ∨ now path = some text)
        (fun _ after => after path = some text) (fun _ after => after path = fs path) now ↔
      (calls.rename = none ∨ calls.renameAgain = none → content = text) ∧
        (calls.rename ≠ none → calls.remove = true → fs path = none) := by
  have distinct := path_ne_tempPath path
  have arrives : (some content = fs path ∨ content = text) ∧ content = text ↔ content = text :=
    and_iff_right_of_imp Or.inr
  rw [replaceTarget]
  cases renamed : calls.rename with
  | none => simp [distinct, temp, arrives]
  | some first =>
    cases again : calls.renameAgain with
    | none =>
      -- The removal is a moment of its own, at which a target that was there is missing.
      by_cases removed : calls.remove = true
      · simp only [removed, if_true, wp_bind, wp_step, FileSystem.remove_same,
          FileSystem.rename_target _ distinct, FileSystem.remove_other _ distinct.symm, temp]
        simp only [Option.some.injEq, arrives]
        simp [eq_comm, and_comm]
      · simp [distinct, removed, temp, unchanged, arrives]
    | some second =>
      by_cases removed : calls.remove = true
      · simp [removed, eq_comm]
      · simp [removed, unchanged]

end Specs

/-- Where nothing is renamed, the target keeps its content. -/
theorem writesAtomically_of_not_tempWritten {fs : FileSystem} {path : String} {text : List UInt8}
    {calls : WriteCalls} (unwritten : ¬ calls.TempWritten path) :
    WritesAtomically fs path text calls := by
  have distinct := path_ne_tempPath path
  rw [WritesAtomically, writeAtomicTextFile]
  by_cases named : path = ""
  · simp [named]
  rw [if_neg named, wp_bind]
  by_cases directories : '/' ∈ path.toList → calls.createDirectories = none
  · apply (wp_createParent directories).mpr
    apply (wp_bind _).mpr
    apply (wp_writeTemp fun content => content = fs path ∨ content = some text).mpr
    by_cases opened : calls.openTemp = true
    · by_cases failed : calls.writeFails = true
      · simp [opened, failed, afterTemp, distinct]
      · exact absurd ⟨named, directories, opened, by simpa using failed⟩ unwritten
    · simp [opened]
  · exact wp_createParent_fails directories fun _ => rfl

theorem writesAtomically_iff_replaces {fs : FileSystem} {path : String} {text : List UInt8}
    {calls : WriteCalls} (ready : calls.TempWritten path) :
    WritesAtomically fs path text calls ↔ calls.Replaces fs path text := by
  have distinct := path_ne_tempPath path
  have unchanged : afterTemp fs path text calls path = fs path := by
    simp [afterTemp, distinct]
  have temp : afterTemp fs path text calls (tempPath path) = some (text.take calls.flushed) := by
    simp [afterTemp]
  rw [WritesAtomically, writeAtomicTextFile, if_neg ready.named, wp_bind,
    wp_createParent ready.directories, wp_bind,
    wp_writeTemp fun content => content = fs path ∨ content = some text]
  simp only [ready.opened, ready.written, if_true, Bool.false_eq_true, if_false, true_or,
    true_and]
  rw [wp_replaceTarget unchanged temp, List.take_eq_self_iff]
  constructor
  · rintro ⟨complete, kept⟩
    exact ⟨complete, kept⟩
  · rintro ⟨complete, kept⟩
    exact ⟨complete, kept⟩

/-- The target changes from the old content to the new text, or not at all, except where the
flush falls short of the text and the file is renamed all the same, or the target is removed
between the two attempts to rename. -/
theorem writeAtomicTextFile_atomic_iff (fs : FileSystem) (path : String) (text : List UInt8)
    (calls : WriteCalls) :
    WritesAtomically fs path text calls ↔
      (calls.TempWritten path → calls.Replaces fs path text) := by
  by_cases ready : calls.TempWritten path
  · rw [writesAtomically_iff_replaces ready]
    simp [ready]
  · simp [ready, writesAtomically_of_not_tempWritten ready]

/-- The disk is full when the stream is closed: the call returns, and the target is empty. -/
def flushFails : WriteCalls where
  createDirectories := none
  openTemp := true
  written := 0
  writeFails := false
  flushed := 0
  rename := none
  remove := true
  renameAgain := none

/-- The old file is removed, and the second attempt to rename fails as the first one did. -/
def renameFails : WriteCalls where
  createDirectories := none
  openTemp := true
  written := 0
  writeFails := false
  flushed := 2
  rename := some "Input/output error"
  remove := true
  renameAgain := some "Input/output error"

/-- A call that returns behind an empty file, and one that throws behind the loss of the old
file. -/
theorem writeAtomicTextFile_not_atomic :
    ¬ WritesAtomically (fun _ => none) "stats.json" [0x7b, 0x7d] flushFails ∧
      ¬ WritesAtomically (fun _ => some [0x7b]) "stats.json" [0x7b, 0x7d] renameFails := by
  constructor
  · intro atomic
    have after := atomic.returned () (by decide)
    revert after
    decide
  · intro atomic
    have after := atomic.thrown
      "Failed to atomically replace stats file stats.json: Input/output error" (by decide)
    revert after
    decide

end V4l2Capture.Stats

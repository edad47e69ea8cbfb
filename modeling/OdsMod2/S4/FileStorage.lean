import OdsMod2.S4.Ports

/-!
# The file storage

`FileStorage` (`file_storage.cpp`) is the file half of the ports, on top of the calls of
`std::filesystem`, which report a failure through an `error_code`. A `FileSystem` says which of
those calls may fail, and may fail them at any time.

Each function refines its port: whatever the file system does, it answers as the environment says
(`exists_serves`, `sizeOf_serves`, `remove_serves`). What becomes of a failed status call is the
point to note. `exists` reports the file as missing, so a file whose status may fail is one the
environment `hides`.

`write` looks at its stream before the stream is closed. What is still in the buffer then is written
by the destructor, and nobody asks whether it got in. So `write` refines its port over a file system
that does not fail there (`Flushes`, `write_serves`); over any other it may return with only a part
of the data in the file.
-/

namespace Ods.S4

open Prog

/-! ### The file system -/

/-- What an `error_code` holds. -/
inductive Errc where
  | noSuchFileOrDirectory
  | permissionDenied
  | ioError
  deriving DecidableEq, Repr

inductive FsCall where
  | status (path : String)
  | fileSize (path : String)
  | remove (path : String)
  -- the constructor of the stream, its `write` and its destructor
  | openTruncated (path : String)
  | writeAll (path : String) (data : List UInt8)
  | close (path : String) (data : List UInt8)

/-- What a call answers when it does not set its `error_code`. -/
def FsCall.Value : FsCall → Type
  | .status _ => Bool
  | .fileSize _ => Nat
  | .remove _ => Unit
  | .openTruncated _ => Unit
  | .writeAll _ _ => Unit
  | .close _ _ => Unit

abbrev FsCall.Answer (op : FsCall) : Type := Except Errc op.Value

abbrev Files := String → Option (List UInt8)

/-- Which calls may fail, and how. -/
structure FileSystem where
  fails : FsCall → Errc → Prop

/-- A call that works. -/
def FsCall.works : (op : FsCall) → op.Value → Files → Files → Prop
  | .status path, found, files, files' => found = (files path).isSome ∧ files' = files
  | .fileSize path, size, files, files' =>
    (∃ data, files path = some data ∧ size = data.length) ∧ files' = files
  -- removing what is not there is no error
  | .remove path, _, files, files' => files' = Function.update files path none
  | .openTruncated path, _, files, files' => files' = Function.update files path (some [])
  -- the rest of the data stays in the buffer of the stream
  | .writeAll path data, _, files, files' =>
    ∃ written, written <+: data ∧ files' = Function.update files path (some written)
  | .close path data, _, files, files' => files' = Function.update files path (some data)

namespace FileSystem

variable (fs : FileSystem)

/-- A call that sets its `error_code`. -/
def breaks : FsCall → Errc → Files → Files → Prop
  | .fileSize path, errc, files, files' =>
    (fs.fails (.fileSize path) errc ∧ errc ≠ .noSuchFileOrDirectory ∨
      files path = none ∧ errc = .noSuchFileOrDirectory) ∧ files' = files
  -- a part of the data may have been written, by the time the stream is gone
  | .writeAll path data, errc, files, files' => fs.fails (.writeAll path data) errc ∧
      ∃ written, written <+: data ∧ files' = Function.update files path (some written)
  -- a part of the rest may have been
  | .close path data, errc, files, files' => fs.fails (.close path data) errc ∧
      ∃ before written, files path = some before ∧ before <+: written ∧ written <+: data ∧
        files' = Function.update files path (some written)
  | op, errc, files, files' => fs.fails op errc ∧ files' = files

def serves : Handler FsCall.Answer ODSException Files
  | op, files, .ok (.ok value), files' => op.works value files files'
  | op, files, .ok (.error errc), files' => fs.breaks op errc files files'
  -- the calls report, they do not throw
  | _, _, .error _, _ => False

/-- What is in a buffer when the stream is closed always gets into the file. -/
def Flushes : Prop :=
  ∀ path data errc, ¬ fs.fails (.close path data) errc

end FileSystem

/-! ### The storage -/

namespace FileStorage

abbrev Storage := Prog FsCall.Answer ODSException

def fileOperationError (message : String) : ODSException :=
  .application ⟨.fileOperation, message⟩

/-- `FileStorage::write`. -/
def write (path : String) (data : List UInt8) : Storage Unit := do
  match ← perform (FsCall.openTruncated path) with
  | .error _ => fail (fileOperationError ("cannot open file for writing: " ++ path))
  | .ok _ =>
    match ← perform (FsCall.writeAll path data) with
    | .error _ => fail (fileOperationError ("failed writing file: " ++ path))
    | .ok _ =>
      -- the destructor, which reports nothing
      let _ ← perform (FsCall.close path data)
      ret ()

/-- `FileStorage::exists`: `!ec && result`. -/
def «exists» (path : String) : Storage Bool := do
  match ← perform (FsCall.status path) with
  | .error _ => ret false
  | .ok found => ret found

/-- `FileStorage::sizeOf`. -/
def sizeOf (path : String) : Storage Nat := do
  match ← perform (FsCall.fileSize path) with
  | .error .noSuchFileOrDirectory => fail (Environment.mediaFileNotFound path)
  | .error _ => fail (fileOperationError ("cannot read size of file: " ++ path))
  | .ok size => ret size

/-- `FileStorage::remove`. -/
def remove (path : String) : Storage Unit := do
  match ← perform (FsCall.remove path) with
  | .error _ => fail (fileOperationError ("cannot remove file: " ++ path))
  | .ok _ => ret ()

/-! ### The refinement -/

/-- What the storage throws over a file system. -/
def throws (fs : FileSystem) : PortCall → ODSException → Prop
  | .writeFile path data, exception =>
    (∃ errc, fs.fails (.openTruncated path) errc) ∧
        exception = fileOperationError ("cannot open file for writing: " ++ path) ∨
      (∃ errc, fs.fails (.writeAll path data) errc) ∧
        exception = fileOperationError ("failed writing file: " ++ path)
  | .fileSize path, exception =>
    (∃ errc, fs.fails (.fileSize path) errc) ∧
      exception = fileOperationError ("cannot read size of file: " ++ path)
  | .removeFile path, exception =>
    (∃ errc, fs.fails (.remove path) errc) ∧
      exception = fileOperationError ("cannot remove file: " ++ path)
  | _, _ => False

/-- The ports, with the file system behind the file calls. -/
def environment (fs : FileSystem) (env : Environment) : Environment :=
  { env with
    fails := fun op exception => throws fs op exception ∨ env.fails op exception
    hides := fun path => ∃ errc, fs.fails (.status path) errc }

section Refinement

variable (fs : FileSystem) (env : Environment) (s : ServiceState)

/-- The outcome of a storage function is one the port may have. -/
def Serves (op : PortCall) (program : Storage op.Answer) : Prop :=
  program.wp fs.serves (fun _ _ => True)
    (fun answer files' => (environment fs env).serves op s answer { s with files := files' })
    s.files

theorem exists_serves (path : String) :
    Serves fs env s (.fileExists path) (FileStorage.exists path) := by
  refine wp_bind (wp_perform trivial fun answer files' hserves => ?_)
  match answer, hserves with
  | .ok (.ok found), ⟨hfound, hfiles⟩ =>
    rw [hfiles]
    exact ⟨.inl hfound, rfl⟩
  | .ok (.error errc), ⟨hfails, hfiles⟩ =>
    -- a failed status call and a missing file look the same
    rw [hfiles]
    exact ⟨.inr ⟨rfl, errc, hfails⟩, rfl⟩

theorem sizeOf_serves (path : String) :
    Serves fs env s (.fileSize path) (FileStorage.sizeOf path) := by
  refine wp_bind (wp_perform trivial fun answer files' hserves => ?_)
  match answer, hserves with
  | .ok (.ok size), ⟨hsize, hfiles⟩ =>
    rw [hfiles]
    exact ⟨hsize, rfl⟩
  | .ok (.error errc), ⟨hbreaks, hfiles⟩ =>
    rw [hfiles]
    rcases hbreaks with ⟨hfails, hother⟩ | ⟨hnone, rfl⟩
    · cases errc with
      | noSuchFileOrDirectory => exact absurd rfl hother
      | permissionDenied => exact ⟨.inl (.inl ⟨⟨_, hfails⟩, rfl⟩), rfl⟩
      | ioError => exact ⟨.inl (.inl ⟨⟨_, hfails⟩, rfl⟩), rfl⟩
    · exact ⟨.inr ⟨hnone, rfl⟩, rfl⟩

theorem remove_serves (path : String) :
    Serves fs env s (.removeFile path) (FileStorage.remove path) := by
  refine wp_bind (wp_perform trivial fun answer files' hserves => ?_)
  match answer, hserves with
  | .ok (.ok _), hfiles =>
    rw [show files' = _ from hfiles]
    rfl
  | .ok (.error errc), ⟨hfails, hfiles⟩ =>
    rw [hfiles]
    exact ⟨.inl ⟨⟨errc, hfails⟩, rfl⟩, rfl⟩

/-- What becomes of a write: the answer, and the file. -/
inductive Leaves (path : String) (data : List UInt8) (files : Files) :
    Except ODSException Unit → Files → Prop
  | all : Leaves path data files (.ok ()) (Function.update files path (some data))
  /-- The rest was lost when the stream was closed, and nobody has noticed. -/
  | part {written : List UInt8} {errc : Errc} (hfails : fs.fails (.close path data) errc)
      (hpart : written <+: data) :
      Leaves path data files (.ok ()) (Function.update files path (some written))
  | notOpened {errc : Errc} (hfails : fs.fails (.openTruncated path) errc) :
      Leaves path data files
        (.error (fileOperationError ("cannot open file for writing: " ++ path))) files
  | cutOff {written : List UInt8} {errc : Errc} (hfails : fs.fails (.writeAll path data) errc)
      (hpart : written <+: data) :
      Leaves path data files (.error (fileOperationError ("failed writing file: " ++ path)))
        (Function.update files path (some written))

theorem write_leaves (path : String) (data : List UInt8) (files : Files) :
    (FileStorage.write path data).wp fs.serves (fun _ _ => True) (Leaves fs path data files)
      files := by
  refine wp_bind (wp_perform trivial fun answer files' hserves => ?_)
  match answer, hserves with
  | .ok (.error errc), ⟨hfails, hfiles⟩ =>
    rw [hfiles]
    exact .notOpened hfails
  | .ok (.ok _), hopened =>
    -- the file is empty now
    obtain rfl : files' = _ := hopened
    refine wp_bind (wp_perform trivial fun answer files'' hserves => ?_)
    match answer, hserves with
    | .ok (.error errc), ⟨hfails, written, hpart, hfiles⟩ =>
      rw [hfiles, Function.update_idem]
      exact .cutOff hfails hpart
    | .ok (.ok _), ⟨_, _, hfiles⟩ =>
      obtain rfl : files'' = _ := hfiles
      refine wp_bind (wp_perform trivial fun answer closed hserves => ?_)
      match answer, hserves with
      | .ok (.ok _), hclosed =>
        rw [show closed = _ from hclosed, Function.update_idem, Function.update_idem]
        exact .all
      | .ok (.error errc), ⟨hfails, _, written, _, _, hpart, hclosed⟩ =>
        rw [hclosed, Function.update_idem, Function.update_idem]
        exact .part hfails hpart

theorem write_serves (hflushes : fs.Flushes) (path : String) (data : List UInt8) :
    Serves fs env s (.writeFile path data) (FileStorage.write path data) := by
  refine wp_mono (write_leaves fs path data s.files) fun answer files' hleaves => ?_
  cases hleaves with
  | all => rfl
  | part hfails hpart => exact absurd hfails (hflushes path data _)
  | notOpened hfails => exact ⟨.inl (.inl ⟨⟨_, hfails⟩, rfl⟩), .inl rfl⟩
  | cutOff hfails hpart => exact ⟨.inl (.inr ⟨⟨_, hfails⟩, rfl⟩), .inr ⟨_, hpart, rfl⟩⟩

end Refinement

end FileStorage

end Ods.S4

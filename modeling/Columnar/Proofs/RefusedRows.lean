import Columnar.Proofs.Conforming
import Columnar.Proofs.WrittenFile

set_option autoImplicit false

namespace Columnar

namespace Writer

abbrev Step := EStateM Failure Writer Unit

def checkWidth (row : Row) : Step := do
  let writer ← get
  if row.width ≠ writer.fields.length then
    throw (.schema (.rowWidth row.width writer.fields.length))

def checkCells : List Field → List Value → Step
  | (name, type) :: fields, value :: values => do
    if value.fits type = false then throw (.schema (.misfit value name))
    checkCells fields values
  | _, _ => pure ()

def pushCells : Nat → List Value → Step
  | _, [] => pure ()
  | column, value :: values => do
    modify fun writer => { writer with pending := writer.pending.modify column (value :: ·) }
    pushCells (column + 1) values

def cutFull (writer : Writer) : Writer :=
  if writer.limit ≤ writer.pendingRows then writer.flush else writer

-- Adds a row step by step: all of it is checked before any of it is put into a column.
def enter (row : Row) : Step := do
  checkWidth row
  let writer ← get
  checkCells writer.fields row.values
  pushCells 0 row.values
  modify fun writer => cutFull { writer with pendingRows := writer.pendingRows + 1 }

section

variable {α β : Type} {first : EStateM Failure Writer α} (next : α → EStateM Failure Writer β)
  {writer kept : Writer}

theorem step_done {result : α} (done : first writer = .ok result kept) :
    (first >>= next) writer = next result kept := by
  show EStateM.bind first next writer = next result kept
  rw [EStateM.bind, done]

theorem step_failed {failure : Failure} (failed : first writer = .error failure kept) :
    (first >>= next) writer = .error failure kept := by
  show EStateM.bind first next writer = .error failure kept
  rw [EStateM.bind, failed]

end

theorem step_get (writer : Writer) :
    (get : EStateM Failure Writer Writer) writer = .ok writer writer :=
  rfl

theorem step_modify (change : Writer → Writer) (writer : Writer) :
    (modify change : Step) writer = .ok () (change writer) :=
  rfl

theorem check_width_wide (row : Row) (writer : Writer) (wide : row.width = writer.fields.length) :
    checkWidth row writer = .ok () writer := by
  rw [checkWidth, step_done _ (step_get writer), if_neg (by simpa using wide)]
  rfl

theorem check_width_wrong (row : Row) (writer : Writer) (wrong : row.width ≠ writer.fields.length) :
    checkWidth row writer =
      .error (.schema (.rowWidth row.width writer.fields.length)) writer := by
  rw [checkWidth, step_done _ (step_get writer), if_pos wrong]
  rfl

theorem check_cells (fields : List Field) (values : List Value) (writer : Writer) :
    checkCells fields values writer =
      match misfit? fields values with
      | some fault => .error (.schema fault) writer
      | none => .ok () writer := by
  induction fields generalizing values with
  | nil => rfl
  | cons field fields ih =>
    obtain ⟨name, type⟩ := field
    cases values with
    | nil => rfl
    | cons value values =>
      rw [misfit?, checkCells]
      cases value.fits type with
      | true => exact ih values
      | false => rfl

theorem push_cells (values : List Value) (writer : Writer) (front back : List (List Value))
    (split : writer.pending = front ++ back) (even : back.length = values.length) :
    pushCells front.length values writer =
      .ok () { writer with pending := front ++ List.zipWith List.cons values back } := by
  induction values generalizing writer front back with
  | nil =>
    rw [List.length_nil, List.length_eq_zero_iff] at even
    rw [even, List.zipWith_nil_left, ← even, ← split]
    rfl
  | cons value values ih =>
    cases back with
    | nil => cases even
    | cons first others =>
      rw [List.length_cons, List.length_cons, Nat.add_right_cancel_iff] at even
      have pushed : writer.pending.modify front.length (value :: ·) =
          (front ++ [value :: first]) ++ others := by
        simp [split, List.modify_eq_take_cons_drop]
      have rest := ih { writer with pending := writer.pending.modify front.length (value :: ·) }
        (front ++ [value :: first]) others pushed even
      rw [List.length_append, List.append_assoc] at rest
      rw [pushCells, step_done _ (step_modify _ writer)]
      exact rest

theorem enter_of_fault (row : Row) (writer : Writer) (fault : SchemaFault)
    (found : fault? writer.fields row = some fault) :
    enter row writer = .error (.schema fault) writer := by
  rw [fault?] at found
  by_cases wrong : row.width ≠ writer.fields.length
  · rw [if_pos wrong, Option.some.injEq] at found
    rw [enter, step_failed _ (check_width_wrong row writer wrong), found]
  · rw [if_neg wrong] at found
    have wide := check_width_wide row writer (Decidable.not_not.mp wrong)
    have stopped := check_cells writer.fields row.values writer
    simp only [found] at stopped
    rw [enter, step_done _ wide, step_done _ (step_get writer), step_failed _ stopped]

theorem add_of_fits_cuts (writer : Writer) (row : Row) (fits : fault? writer.fields row = none) :
    writer.add row = .ok (writer.gather row).cutFull := by
  rw [add_of_fits writer row fits, cutFull]
  exact (apply_ite Except.ok _ _ _).symm

theorem enter_of_fits (row : Row) (writer : Writer)
    (even : writer.pending.length = writer.fields.length)
    (fits : fault? writer.fields row = none) :
    enter row writer = .ok () (writer.gather row).cutFull := by
  obtain ⟨width, cells⟩ := fault_none_width writer.fields row fits
  have wide := check_width_wide row writer width
  have checked := check_cells writer.fields row.values writer
  simp only [cells] at checked
  have pushed := push_cells row.values writer [] writer.pending rfl (even.trans width.symm)
  rw [List.length_nil, List.nil_append] at pushed
  rw [enter, step_done _ wide, step_done _ (step_get writer), step_done _ checked, step_done _ pushed]
  rfl

structure Leaves (files : FileSystem) (path : Path) (writer : Writer) (calls : List WriterCall)
    (bytes : Bytes) : Prop where
  stands : ∃ content, ((writer.run files calls).2.1.close (writer.run files calls).2.2).2.openFile path =
    .ok (.regular content) ∧ content.toBytes = bytes
  length : ((writer.run files calls).2.1.close (writer.run files calls).2.2).1 = bytes.length

end Writer

namespace WriterCall

def Conforms (fields : List Field) : WriterCall → Prop
  | .flush => True
  | .add row => row.Conforms fields

instance (fields : List Field) (call : WriterCall) : Decidable (call.Conforms fields) :=
  match call with
  | .flush => inferInstanceAs (Decidable True)
  | .add row => inferInstanceAs (Decidable (row.Conforms fields))

def row? : WriterCall → Option Row
  | .flush => none
  | .add row => some row

end WriterCall

namespace Writer

theorem perform_of_breaks (files : FileSystem) (writer : Writer) (row : Row)
    (breaks : ¬ row.Conforms writer.fields) :
    writer.perform files (.add row) = (writer, files) ∧ writer.taken (.add row) = [] := by
  obtain ⟨_, conforms⟩ | ⟨fault, found, _, _⟩ := fault_cases writer.fields row
  · exact absurd conforms breaks
  · have refused : writer.add row = .error (.schema fault) := by rw [add, found]
    constructor
    · rw [perform, refused]
    · rw [taken, refused]
      rfl

theorem taken_of_conforms (writer : Writer) (call : WriterCall)
    (conforms : call.Conforms writer.fields) : writer.taken call = call.row?.toList := by
  cases call with
  | flush => rfl
  | add row =>
    have fits := (fault_none_iff writer.fields row).mpr conforms
    rw [taken, if_pos ((add_is_ok_iff writer row).mpr fits)]
    rfl

-- The induction is on the calls. One that is removed has done nothing, so the next finds the same
-- writer and the same files in both runs.
theorem run_of_conforming (files : FileSystem) (writer : Writer) (cutting : Cutting)
    (going : Going files writer cutting.chunks cutting.waiting) (calls : List WriterCall) :
    writer.run files (calls.filter fun call => call.Conforms writer.fields) = writer.run files calls ∧
      (writer.run files calls).1 =
        (calls.filter fun call => call.Conforms writer.fields).filterMap WriterCall.row? := by
  induction calls generalizing files writer cutting with
  | nil => exact ⟨rfl, rfl⟩
  | cons call rest ih =>
    obtain ⟨once, onward, _⟩ := perform_going files writer cutting going call
    by_cases conforms : call.Conforms writer.fields
    · obtain ⟨same, rows⟩ := ih _ _ _ once
      rw [onward.fields] at same rows
      rw [List.filter_cons_of_pos (by simpa using conforms), run_cons, run_cons, same, List.filterMap_cons]
      refine ⟨rfl, ?_⟩
      rw [rows, taken_of_conforms writer call conforms]
      cases call.row? <;> rfl
    · rw [List.filter_cons_of_neg (by simpa using conforms), run_cons]
      cases call with
      | flush => exact absurd trivial conforms
      | add row =>
        obtain ⟨nothing, untouched⟩ := perform_of_breaks files writer row conforms
        rw [nothing, untouched]
        exact ih files writer cutting going

end Writer

-- The time and the level that a file tells stand in the options, the same for both runs.
theorem refused_rows_leave_no_trace (files made left : FileSystem) (path : Path)
    (fields : List Field) (options : WriterOptions) (writer last : Writer)
    (creates : Writer.create files path fields options = .ok (writer, made))
    (calls : List WriterCall) (rows : List Row) (ran : writer.run made calls = (rows, last, left)) :
    let kept := calls.filter fun call => call.Conforms fields
    (∀ row, (last.add row).isOk = true ↔ row.Conforms fields) ∧
    (∀ row, row.Conforms fields → ∃ next, Writer.enter row last = .ok () next ∧
      last.perform left (.add row) = next.settle left) ∧
    (∀ row, ¬ row.Conforms fields → ∃ fault, row.Breaks fields fault ∧
      Writer.enter row last = .error (.schema fault) last ∧
      last.perform left (.add row) = (last, left)) ∧
    writer.run made kept = (rows, last, left) ∧ rows = kept.filterMap WriterCall.row? ∧
    ∃ bytes, writer.Leaves made path calls bytes ∧ writer.Leaves made path kept bytes := by
  intro kept
  obtain ⟨_, sameFields, _, going, _⟩ := Writer.create_going files made path fields options writer creates
  obtain ⟨_, lastFields, _, _⟩ := Writer.run_lays_out files made left path fields options writer last
    creates calls rows ran
  have even := (Writer.run_evenly_pending files made path fields options writer creates calls).columns
  obtain ⟨same, taken⟩ := Writer.run_of_conforming made writer .nothing going calls
  rw [sameFields] at same taken
  rw [ran] at same taken even
  obtain ⟨content, located, total, _⟩ := Writer.close_lays_out files made left (last.close left).2 path
    fields options writer last creates calls rows ran (last.close left).1 rfl
  have leaves (others : List WriterCall) (alike : writer.run made others = (rows, last, left)) :
      writer.Leaves made path others content.toBytes := by
    refine ⟨⟨content, ?_, rfl⟩, ?_⟩
    · rw [alike]
      exact located
    · rw [alike, content.length_toBytes]
      exact total.symm
  refine ⟨fun row => ?_, fun row conforms => ?_, fun row breaks => ?_, same, taken, content.toBytes,
    leaves calls ran, leaves kept same⟩
  · rw [Writer.add_is_ok_iff, lastFields, Writer.fault_none_iff]
  · rw [← lastFields] at conforms even
    have fits := (Writer.fault_none_iff last.fields row).mpr conforms
    refine ⟨_, Writer.enter_of_fits row last even fits, ?_⟩
    rw [Writer.perform, Writer.add_of_fits_cuts last row fits]
  · rw [← lastFields] at breaks
    obtain ⟨_, conforms⟩ | ⟨fault, found, broken, _⟩ := Writer.fault_cases last.fields row
    · exact absurd conforms breaks
    · rw [lastFields] at broken
      exact ⟨fault, broken, Writer.enter_of_fault row last fault found,
        (Writer.perform_of_breaks left last row breaks).1⟩

namespace Example

-- One item is a number where the type has strings.
def misfitRow : Row := ⟨[.null, .list [.string "x", .int 2]]⟩

def keptCalls : List WriterCall :=
  [.add ⟨[.long 5, .null]⟩, .flush, .add ⟨[.null, .list [.string "x", .null]]⟩,
    .add ⟨[.long (-1), .list []]⟩]

def mixedCalls : List WriterCall :=
  [.add ⟨[.null]⟩, .add ⟨[.long 5, .null]⟩, .add misfitRow, .flush, .add ⟨[.long 1, .null, .null]⟩,
    .add ⟨[.null, .list [.string "x", .null]]⟩, .add misfitRow, .add ⟨[.long (-1), .list []]⟩]

theorem misfit_row_breaks : ¬ misfitRow.Conforms fields := by decide

theorem mixed_calls_filtered :
    (mixedCalls.filter fun call => call.Conforms fields) = keptCalls := by rfl

end Example

theorem mixed_calls_leave_no_trace :
    ∃ writer last left bytes,
      Writer.create .empty "t" Example.fields Example.options = .ok (writer, Example.made) ∧
      writer.run Example.made Example.mixedCalls = (Example.rows, last, left) ∧
      writer.run Example.made Example.keptCalls = (Example.rows, last, left) ∧
      (∃ fault, Example.misfitRow.Breaks Example.fields fault ∧
        Writer.enter Example.misfitRow last = .error (.schema fault) last) ∧
      writer.Leaves Example.made "t" Example.mixedCalls bytes ∧
      writer.Leaves Example.made "t" Example.keptCalls bytes := by
  have creates := Example.empty_file_created Example.fields Example.options rfl
  have ran : (Writer.run Example.made (.start 0 Example.fields Example.options)
      Example.mixedCalls).1 = Example.rows := by rfl
  obtain ⟨_, _, refused, same, _, bytes, mixed, kept⟩ := refused_rows_leave_no_trace .empty
    Example.made _ "t" Example.fields Example.options _ _ creates Example.mixedCalls _
    (Prod.ext ran rfl)
  obtain ⟨fault, breaks, entered, _⟩ := refused Example.misfitRow Example.misfit_row_breaks
  rw [Example.mixed_calls_filtered] at same kept
  exact ⟨_, _, _, bytes, creates, Prod.ext ran rfl, same, ⟨fault, breaks, entered⟩, mixed, kept⟩

end Columnar

import Mathlib.Data.List.DropRight
import SqlSession.Diagnostic
/-!
# The log of a call

A log starts empty, grows at its end and is cleared when the next call starts.  Whatever is done to
it, it holds the records that were added behind the last `clear` (`recorded`), and these alone
decide how an outcome is completed:

    outcome   log         status              records                        given back
    a value   empty       success             none                           the value
    a value   not empty   success with info   those of the log               the value
    error     any         error               those, then the error's own    the error's own record

* `Diagnostics.records_run_empty`: the records of a log, from the operations on it.
* `Diagnostics.records_run`: without `clear`, a run only appends.
* `Diagnostics.completes`, `Diagnostics.leftBy_complete`: the result of an outcome, and the log that
  it leaves, read at its first record, at its last and by position.
* `Diagnostics.run_recorded`: all of it, after any run.
-/

namespace SqlSession

/-! ## Operations -/

/-- What is done to a log; calls complete with values of any type. -/
inductive LogOperation : Type 1 where
  | push (record : DiagnosticRecord)
  | warn (state : SqlState) (message : String)
  | complete {α : Type} (outcome : Except DriverError α)
  | clear

namespace LogOperation

/-- The log that an operation leaves. -/
def apply : LogOperation → Diagnostics → Diagnostics
  | push record, d => d.push record
  | warn state message, d => d.warn state message
  | complete outcome, d => (d.complete outcome).2
  | clear, d => d.clear

/-- Whether an operation drops the records that are there. -/
def isClear : LogOperation → Bool
  | clear => true
  | _ => false

/-- The record that an operation adds.  A warning and an error are about no row and no column. -/
def added : LogOperation → Option DiagnosticRecord
  | push record => some record
  | warn state message => some { state, message, row := -1, column := -1 }
  | complete (.ok _) => none
  | complete (.error e) => some { state := e.state, message := e.message, row := -1, column := -1 }
  | clear => none

end LogOperation

namespace Diagnostics

/-- The log after operations in a row. -/
def run (d : Diagnostics) (ops : List LogOperation) : Diagnostics :=
  ops.foldl (fun d op => op.apply d) d

/-- The records added behind the last `clear`, in order; by all operations, if there is none. -/
def recorded (ops : List LogOperation) : List DiagnosticRecord :=
  (ops.rtakeWhile fun op => !op.isClear).filterMap LogOperation.added

/-- A log shows records: all of them, and each by its position from 1 on. -/
structure Shows (d : Diagnostics) (records : List DiagnosticRecord) : Prop where
  all : d.records = records
  at_position : ∀ i (h : i < records.length), d.record? (i + 1) = some records[i]
  at_no_position : ∀ i, i = 0 ∨ records.length < i → d.record? i = none

/-- A log is what a result left: it shows the records of the result, the state of the result is that
of the first of them, and a failure gives the last of them. -/
structure LeftBy {α : Type} (d : Diagnostics) (r : CallResult α) : Prop where
  shows : d.Shows r.records
  first : r.state? = (d.record? 1).map (·.state)
  last : ∀ record, r.toExcept = .error record → d.record? r.records.length = some record

end Diagnostics

/-- A result completes an outcome over a log that holds `before`. -/
structure CallResult.Completes {α : Type} (r : CallResult α) (outcome : Except DriverError α)
    (before : List DiagnosticRecord) : Prop where
  success_iff : ∀ value, r.status = .success ∧ r.value = some value ↔
    outcome = .ok value ∧ before = []
  info_iff : ∀ value, r.status = .successWithInfo ∧ r.value = some value ↔
    outcome = .ok value ∧ before ≠ []
  value_iff : ∀ value, r.toExcept = .ok value ↔ outcome = .ok value
  nothing_added : ∀ value, outcome = .ok value → r.records = before
  failed : ∀ e, outcome = .error e → r.status = .error ∧ r.value = none ∧
    r.records = before ++ [{ state := e.state, message := e.message }] ∧
    r.toExcept = .error { state := e.state, message := e.message }

/-! ## Runs -/

namespace Diagnostics

/-- **Steps.**  An operation other than `clear` appends what it adds, and `clear` leaves nothing. -/
theorem records_apply (op : LogOperation) (d : Diagnostics) :
    (op.apply d).records = if op.isClear then [] else d.records ++ op.added.toList := by
  cases op with
  | push record => rfl
  | warn state message => rfl
  | complete outcome =>
    cases outcome with
    | ok value => exact (List.append_nil d.records).symm
    | error e => rfl
  | clear => rfl

theorem run_append (d : Diagnostics) (ops later : List LogOperation) :
    d.run (ops ++ later) = (d.run ops).run later := by
  unfold run
  rw [List.foldl_append]

theorem added_cons (op : LogOperation) (ops : List LogOperation) :
    (op :: ops).filterMap LogOperation.added =
      op.added.toList ++ ops.filterMap LogOperation.added := by
  rw [List.filterMap_eq_flatMap_toList, List.flatMap_cons, ← List.filterMap_eq_flatMap_toList]

theorem recorded_concat (ops : List LogOperation) (op : LogOperation) :
    recorded (ops ++ [op]) = if op.isClear then [] else recorded ops ++ op.added.toList := by
  unfold recorded
  rw [List.rtakeWhile_concat]
  cases op.isClear with
  | true => rfl
  | false =>
    show (_ ++ [op]).filterMap LogOperation.added = _
    rw [List.filterMap_append, added_cons, List.filterMap_nil, List.append_nil]
    rfl

/-- **Runs.**  A log holds what was added behind the last `clear`. -/
theorem records_run_empty (ops : List LogOperation) : (empty.run ops).records = recorded ops := by
  induction ops using List.reverseRecOn with
  | nil => rfl
  | append_singleton ops op ih =>
    have hstep : empty.run (ops ++ [op]) = op.apply (empty.run ops) := empty.run_append ops [op]
    rw [hstep, records_apply, recorded_concat, ih]

/-- A run without `clear` appends what it adds to the records that are there. -/
theorem records_run (ops : List LogOperation) (h : ∀ op ∈ ops, op.isClear = false)
    (d : Diagnostics) : (d.run ops).records = d.records ++ ops.filterMap LogOperation.added := by
  induction ops generalizing d with
  | nil => exact (List.append_nil d.records).symm
  | cons op ops ih =>
    have hrun : d.run (op :: ops) = (op.apply d).run ops := rfl
    have hstep : (op.apply d).records = d.records ++ op.added.toList := by
      rw [records_apply, h op List.mem_cons_self]
      rfl
    rw [hrun, ih (fun op' hop' => h op' (List.mem_cons_of_mem op hop')), hstep, added_cons,
      List.append_assoc]

/-! ## Reading -/

theorem shows_records (records : List DiagnosticRecord) :
    (⟨records⟩ : Diagnostics).Shows records where
  all := rfl
  at_position i h := List.getElem?_eq_getElem h
  at_no_position := by
    intro i h
    cases i with
    | zero => rfl
    | succ i =>
      refine List.getElem?_eq_none ?_
      rcases h with h | h
      · omega
      · exact Nat.le_of_lt_succ h

theorem shows_of_records {d : Diagnostics} {records : List DiagnosticRecord}
    (h : d.records = records) : d.Shows records := by
  subst h
  exact shows_records d.records

theorem record?_one (d : Diagnostics) : d.record? 1 = d.records.head? :=
  List.head?_eq_getElem?.symm

theorem record?_length (d : Diagnostics) : d.record? d.records.length = d.records.getLast? := by
  rw [List.getLast?_eq_getElem?]
  cases hlength : d.records.length with
  | zero => simp [record?, List.length_eq_zero_iff.1 hlength]
  | succ n => rfl

/-! ## Completing -/

variable {α : Type}

/-- The records of a result are a copy of the log that it leaves. -/
theorem records_complete (d : Diagnostics) (outcome : Except DriverError α) :
    (d.complete outcome).1.records = (d.complete outcome).2.records := by
  cases outcome with
  | ok value => rfl
  | error e => rfl

theorem toExcept_complete_ok (d : Diagnostics) (value : α) :
    (d.complete (.ok value)).1.toExcept = .ok value := by
  cases hrecords : d.records with
  | nil => simp [complete, CallResult.toExcept, hrecords]
  | cons record records => simp [complete, CallResult.toExcept, hrecords]

/-- A failure gives the record of its error, whatever was logged before. -/
theorem toExcept_complete_error (d : Diagnostics) (e : DriverError) :
    (d.complete (.error e : Except DriverError α)).1.toExcept = .error (.ofError e) := by
  have hlast : (d.records ++ [DiagnosticRecord.ofError e]).getLast? = some (.ofError e) :=
    List.getLast?_concat
  simp [complete, push, CallResult.toExcept, hlast]

theorem completes_ok (d : Diagnostics) (value : α) :
    (d.complete (.ok value)).1.Completes (.ok value) d.records where
  success_iff v := by
    cases hrecords : d.records <;> simp [complete, hrecords]
  info_iff v := by
    cases hrecords : d.records <;> simp [complete, hrecords]
  value_iff v := by
    rw [toExcept_complete_ok, Except.ok.injEq, Except.ok.injEq]
  nothing_added _ _ := rfl
  failed e h := by simp at h

theorem completes_error (d : Diagnostics) (e : DriverError) :
    (d.complete (.error e : Except DriverError α)).1.Completes (.error e) d.records where
  success_iff v := by simp [complete]
  info_iff v := by simp [complete]
  value_iff v := by
    rw [toExcept_complete_error]
    simp
  nothing_added v h := by simp at h
  failed e' h := by
    rw [← Except.error.inj h]
    exact ⟨rfl, rfl, rfl, d.toExcept_complete_error e⟩

/-- **Results.**  The records of a log, and nothing else of its past, decide how an outcome is
completed. -/
theorem completes (d : Diagnostics) (outcome : Except DriverError α) :
    (d.complete outcome).1.Completes outcome d.records := by
  cases outcome with
  | ok value => exact d.completes_ok value
  | error e => exact d.completes_error e

/-- The log that an outcome leaves is the one that its result reports. -/
theorem leftBy_complete (d : Diagnostics) (outcome : Except DriverError α) :
    (d.complete outcome).2.LeftBy (d.complete outcome).1 where
  shows := shows_of_records (d.records_complete outcome).symm
  first := by
    unfold CallResult.state?
    rw [record?_one, records_complete]
  last := by
    intro record h
    rw [records_complete, record?_length]
    cases outcome with
    | ok value =>
      rw [toExcept_complete_ok] at h
      simp at h
    | error e =>
      rw [toExcept_complete_error, Except.error.injEq] at h
      rw [← h]
      exact List.getLast?_concat

/-- **The log of a call.**  After any operations a log shows what was added behind the last `clear`;
further operations without `clear` only append to it; and an outcome is completed over these
records, with a result that reports the log it leaves. -/
theorem run_recorded (ops : List LogOperation) :
    (empty.run ops).Shows (recorded ops) ∧
    (∀ later : List LogOperation, (∀ op ∈ later, op.isClear = false) →
      (empty.run (ops ++ later)).Shows (recorded ops ++ later.filterMap LogOperation.added)) ∧
    ∀ (β : Type) (outcome : Except DriverError β),
      ((empty.run ops).complete outcome).1.Completes outcome (recorded ops) ∧
      (empty.run (ops ++ [.complete outcome])).LeftBy ((empty.run ops).complete outcome).1 := by
  have hrecords := records_run_empty ops
  refine ⟨shows_of_records hrecords, fun later hlater => shows_of_records ?_, fun β outcome => ?_⟩
  · rw [run_append, records_run later hlater, hrecords]
  · rw [← hrecords, run_append]
    exact ⟨(empty.run ops).completes outcome, (empty.run ops).leftBy_complete outcome⟩

/-- A log is cleared, then the same warning is pushed twice; a call succeeds over it, and then one
fails. -/
theorem run_recorded_failure :
    let first : DiagnosticRecord := { state := .dataTruncated, message := "first" }
    let full : DiagnosticRecord := { state := .memoryAllocation, message := "Not enough memory." }
    let fails : Except DriverError Unit := .error .memoryAllocation
    let ops : List LogOperation :=
      [.warn .generalError "early", .clear, .warn .dataTruncated "first", .push first]
    let later : List LogOperation := [.complete (.ok 7 : Except DriverError Nat), .complete fails]
    (∀ op ∈ later, op.isClear = false) ∧
      (empty.run (ops ++ later)).Shows [first, first, full] ∧
      ((empty.run ops).complete fails).1.toExcept = .error full ∧
      (empty.run (ops ++ [.complete fails])).record? 3 = some full := by
  intro first full fails ops later
  obtain ⟨-, hlater, hcomplete⟩ := run_recorded ops
  have hkeeps : ∀ op ∈ later, op.isClear = false := by
    intro op hop
    rcases List.mem_cons.1 hop with rfl | hop
    · rfl
    · rw [List.mem_singleton.1 hop]
      rfl
  obtain ⟨hcompletes, hleft⟩ := hcomplete Unit fails
  have hgiven := (hcompletes.failed _ rfl).2.2.2
  exact ⟨hkeeps, hlater later hkeeps, hgiven, hleft.last full hgiven⟩

end Diagnostics

end SqlSession

import DualStack.Command.Execute
import DualStack.Proofs.TableEntries

/-!
# What a command leaves behind

Three commands write one record of the configuration database each, and three write nothing. A
record is written by two requests, one that removes what is under its key and one that sets the
fields. Both look at the same faults, so if the first is granted, so is the second, and a command
that fails has not removed anything. The record that is written has its own fields and no others,
and that of congestion control stands in a table that no load reads.
-/

set_option autoImplicit false

namespace DualStack

/-! ## Requests one after another -/

namespace Store

/-- The store after requests one after another, up to the first that fails, and that failure. What
was done before a failure stays done. -/
def attempt (s : Store) : List Request → Store × Option Failure
  | [] => (s, none)
  | request :: requests =>
    match s.serve request with
    | (s', .failed failure) => (s', some failure)
    | (s', _) => s'.attempt requests

/-- Removing and then setting a hash is done as a whole or not at all. -/
theorem attempt_del_hset (s : Store) (key : String) {fields : Fields} (h : fields ≠ []) :
    s.attempt [.del key, .hset key fields] =
      if s.fails key then (s, some (s.failure .del key))
      else (s.effect (.replace key fields), none) := by
  cases hfails : s.fails key with
  | true =>
    have hdel : s.del key = .error (s.failure .del key) := by
      rw [del, guarded_eq, hfails]
      rfl
    simp [attempt, serve, hdel, answered]
  | false =>
    have hdel := s.serve_of_not_fails (.del key) hfails
    have hhset := serve_of_not_fails (s.effect (.del key)) (.hset key fields) hfails
    simp [attempt, hdel, hhset, s.effect_del_hset key h, reply]

end Store

namespace Command

/-- The record that a command writes, behind its key in the configuration database. -/
def written? : Command → Option (String × Fields)
  | .global args => some ("UE_GLOBAL|global", globalRecord args)
  | .interface args => some (s!"UE_INTERFACE|{args.interface}", interfaceRecord args)
  | .congestion args => some ("UE_CONGESTION|GLOBAL", congestionRecord args)
  | .stats _ | .capabilities _ | .validate => none

/-- The requests that a command makes of the configuration database to write its record. -/
def writes (command : Command) : List Request :=
  match command.written? with
  | some (key, record) => [.del key, .hset key record]
  | none => []

/-- The databases that a command leaves behind, request by request. -/
def left (command : Command) (dbs : Databases) : Databases :=
  { dbs with config := (dbs.config.attempt command.writes).1 }

variable {command : Command} {dbs : Databases} {key : String} {record : Fields}

/-- The record of the global command is never empty. -/
theorem globalRecord_ne_nil (args : GlobalArguments) : globalRecord args ≠ [] := by
  simp [globalRecord]

/-- The record of the interface command is never empty. -/
theorem interfaceRecord_ne_nil (args : InterfaceArguments) :
    interfaceRecord args ≠ [] := by
  simp [interfaceRecord]

/-- No command writes an empty record, so a write never amounts to a removal. -/
theorem ne_nil_of_written? (h : command.written? = some (key, record)) : record ≠ [] := by
  cases command with
  | global args =>
    cases h
    exact globalRecord_ne_nil args
  | interface args =>
    cases h
    exact interfaceRecord_ne_nil args
  | congestion args =>
    cases h
    exact List.cons_ne_nil _ _
  | stats interface => cases h
  | capabilities interface => cases h
  | validate => cases h

/-- Writing a record fails exactly if operations on its key do, and otherwise replaces it. -/
theorem writeRecord_eq (hdatabase : dbs.config.database = .config) (table key : String)
    (record : Fields) :
    let storeKey := Database.config.recordKey table key
    writeRecord dbs table key record =
      if dbs.config.fails storeKey then
        .error (.storeUnavailable (dbs.config.failure .del storeKey))
      else .ok { dbs with config := dbs.config.effect (.replace storeKey record) } := by
  intro storeKey
  unfold writeRecord
  rw [Store.setEntry_eq, Store.withEntry, hdatabase]
  cases dbs.config.fails storeKey <;> rfl

/-- A command that writes fails exactly if operations on the key of its record do, and otherwise
replaces the record. -/
theorem execute_of_written? (hdatabase : dbs.config.database = .config)
    (h : command.written? = some (key, record)) :
    ∃ output, command.execute dbs =
      if dbs.config.fails key then .error (.storeUnavailable (dbs.config.failure .del key))
      else .ok (output, { dbs with config := dbs.config.effect (.replace key record) }) := by
  have hwritten : ∀ {table key record} {text : String},
      (writeRecord dbs table key record >>= fun dbs' => pure (CommandOutput.mk text true, dbs')) =
        if dbs.config.fails (Database.config.recordKey table key) then
          .error (.storeUnavailable
            (dbs.config.failure .del (Database.config.recordKey table key)))
        else .ok (⟨text, true⟩, { dbs with
          config := dbs.config.effect (.replace (Database.config.recordKey table key) record) }) := by
    intro table key record text
    rw [writeRecord_eq hdatabase]
    cases dbs.config.fails (Database.config.recordKey table key) <;> rfl
  cases command with
  | global args =>
    cases h
    exact ⟨_, hwritten⟩
  | interface args =>
    cases h
    exact ⟨_, hwritten⟩
  | congestion args =>
    cases h
    exact ⟨_, hwritten⟩
  | stats interface => cases h
  | capabilities interface => cases h
  | validate => cases h

/-- A command that writes no record leaves the databases as they are. -/
theorem eq_of_written?_eq_none (h : command.written? = none) {output : CommandOutput}
    {after : Databases} (hexecute : command.execute dbs = .ok (output, after)) : after = dbs := by
  cases command with
  | global args => cases h
  | interface args => cases h
  | congestion args => cases h
  | stats interface =>
    obtain ⟨_, -, hpure⟩ := exists_of_bind_eq_ok hexecute
    exact (congrArg Prod.snd (Except.ok.inj hpure)).symm
  | capabilities interface => exact (congrArg Prod.snd (Except.ok.inj hexecute)).symm
  | validate =>
    obtain ⟨errors, -, hpure⟩ := exists_of_bind_eq_ok hexecute
    split at hpure <;> cases hpure <;> rfl

/-- What a command leaves request by request is what it returns, and what was there if it fails. -/
theorem left_eq (hdatabase : dbs.config.database = .config) (command : Command) :
    command.left dbs =
      match command.execute dbs with
      | .ok (_, after) => after
      | .error _ => dbs := by
  unfold left writes
  cases hwritten : command.written? with
  | none =>
    cases hexecute : command.execute dbs with
    | error error => rfl
    | ok result => exact (eq_of_written?_eq_none hwritten hexecute).symm
  | some place =>
    obtain ⟨output, hexecute⟩ := execute_of_written? hdatabase hwritten
    simp only
    rw [hexecute, Store.attempt_del_hset _ _ (ne_nil_of_written? hwritten)]
    cases dbs.config.fails place.1 <;> rfl

end Command

/-- Databases that are as before, but for the hash under one key of the configuration database: it
holds exactly the fields of a record, each with its last value. -/
structure Databases.WroteOnly (dbs : Databases) (key : String) (record : Fields)
    (after : Databases) : Prop where
  appl : after.appl = dbs.appl
  state : after.state = dbs.state
  published : after.config.published = dbs.config.published
  faults : dbs.config.SameFaults after.config
  written : ∃ hash, after.config.hashes[key]? = some hash ∧ ∀ name, hash[name]? = record.value? name
  elsewhere : ∀ other, other ≠ key → after.config.hashes[other]? = dbs.config.hashes[other]?

/-- Replacing one hash of the configuration database writes this record and nothing else. -/
theorem Databases.wroteOnly_effect (dbs : Databases) (key : String) {record : Fields}
    (h : record ≠ []) :
    dbs.WroteOnly key record { dbs with config := dbs.config.effect (.replace key record) } := by
  rw [Store.effect_replace_of_ne_nil h]
  refine ⟨rfl, rfl, rfl, ⟨rfl, rfl, rfl⟩, ⟨record.toHash, ?_, Fields.getElem?_toHash record⟩, ?_⟩
  · exact Std.ExtTreeMap.getElem?_insert_self
  · intro other hother
    simp [Std.ExtTreeMap.getElem?_insert, hother.symm]

namespace Command

/-- What a command leaves behind. A command that fails leaves all three databases with everything
published on them as they were, although it writes with two requests. One that succeeds has replaced
the record under its key of the configuration database, with no field of an older record left, and
done nothing else; the commands that only show something have done nothing at all. A command that
writes fails exactly if the configuration database is unavailable or its key is a failing one, the
capabilities are always shown, and a record of congestion control makes no difference to a load. -/
theorem touches_one_record_or_none (command : Command) {dbs : Databases}
    (hdatabase : dbs.config.database = .config) :
    (∀ error, command.execute dbs = .error error → command.left dbs = dbs) ∧
    (∀ output after, command.execute dbs = .ok (output, after) →
      command.left dbs = after ∧
      (∀ key record, command.written? = some (key, record) → dbs.WroteOnly key record after) ∧
      (command.written? = none → after = dbs)) ∧
    (∀ key record, command.written? = some (key, record) →
      ((∃ error, command.execute dbs = .error error) ↔
        dbs.config.unavailable = true ∨ key ∈ dbs.config.failing)) ∧
    (∀ interface, command = .capabilities interface →
      ∃ output, command.execute dbs = .ok (output, dbs)) ∧
    (∀ args output after, command = .congestion args → command.execute dbs = .ok (output, after) →
      Snapshot.load after.config = Snapshot.load dbs.config) := by
  have hwrote : ∀ {key record output after}, command.written? = some (key, record) →
      command.execute dbs = .ok (output, after) → dbs.WroteOnly key record after := by
    intro key record output after hwritten hexecute
    obtain ⟨_, hresult⟩ := execute_of_written? hdatabase hwritten
    rw [hexecute] at hresult
    split at hresult
    · cases hresult
    · cases hresult
      exact dbs.wroteOnly_effect key (ne_nil_of_written? hwritten)
  refine ⟨?_, ?_, ?_, ?_, ?_⟩
  · intro error hexecute
    rw [left_eq hdatabase, hexecute]
  · intro output after hexecute
    refine ⟨by rw [left_eq hdatabase, hexecute],
      fun key record hwritten => hwrote hwritten hexecute,
      fun hwritten => eq_of_written?_eq_none hwritten hexecute⟩
  · intro key record hwritten
    obtain ⟨output, hresult⟩ := execute_of_written? hdatabase hwritten
    rw [hresult, ← Store.fails_iff]
    cases dbs.config.fails key <;> simp
  · rintro interface rfl
    exact ⟨_, rfl⟩
  · rintro args output after rfl hexecute
    have hafter := hwrote rfl hexecute
    have htable : ∀ (scope : Scope) key,
        "UE_CONGESTION|GLOBAL" ≠ Database.config.recordKey scope.table key :=
      @Scope.recordKey_table_ne Schema.congestionTable (by decide) (by decide) "GLOBAL"
    exact Snapshot.load_of_foreign_change hdatabase ⟨hafter.faults, hafter.elsewhere⟩ htable

/-- With one failing key: the command that writes there leaves the record that is there, and another
command replaces its own record as a whole. -/
theorem touches_one_record_beside_failing_key :
    let global : Command := .global ⟨true, true, false, "uet", "hybrid"⟩
    let congestion : Command := .congestion ⟨"hybrid", true, false⟩
    let dbs : Databases := { Databases.empty with
      config := { Store.empty .config with
        hashes := NameMap.ofPairs [("UE_GLOBAL|global", Fields.toHash [("enable", "false")]),
          ("UE_CONGESTION|GLOBAL", Fields.toHash [("mode", "nscc"), ("legacy", "1")])]
        failing := (∅ : NameSet).insert "UE_GLOBAL|global" } }
    dbs.config.database = .config ∧
      (∃ error, global.execute dbs = .error error ∧ global.left dbs = dbs) ∧
      ∃ output after, congestion.execute dbs = .ok (output, after) ∧
        after.config.hashes["UE_GLOBAL|global"]? = dbs.config.hashes["UE_GLOBAL|global"]? ∧
        (after.config.hashes["UE_CONGESTION|GLOBAL"]?.bind (·["legacy"]?)) = none ∧
        Snapshot.load after.config = Snapshot.load dbs.config := by
  intro global congestion dbs
  obtain ⟨hleft, -, hfails, -, -⟩ := @touches_one_record_or_none global dbs rfl
  obtain ⟨-, hdone, hfails', -, hload⟩ := @touches_one_record_or_none congestion dbs rfl
  obtain ⟨error, herror⟩ := (hfails _ _ rfl).2 (.inr (by decide +kernel))
  refine ⟨rfl, ⟨error, herror, hleft error herror⟩, ?_⟩
  cases hexecute : congestion.execute dbs with
  | error error =>
    have hfailing : dbs.config.unavailable = true ∨ "UE_CONGESTION|GLOBAL" ∈ dbs.config.failing :=
      (hfails' _ _ rfl).1 ⟨error, hexecute⟩
    exact absurd hfailing (by decide +kernel)
  | ok result =>
    obtain ⟨output, after⟩ := result
    have hwrote := (hdone output after hexecute).2.1 _ _ rfl
    obtain ⟨hash, hhash, hfields⟩ := hwrote.written
    refine ⟨output, after, rfl, hwrote.elsewhere _ (by decide), ?_, hload _ _ _ rfl hexecute⟩
    rw [hhash, Option.bind_some, hfields]
    decide +kernel

end Command

end DualStack

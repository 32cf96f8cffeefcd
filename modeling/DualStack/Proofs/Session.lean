import DualStack.Command.Execute
import DualStack.Proofs.Run
import Mathlib.Data.List.Basic

/-!
# Sessions

A session is what happens to one manager and its three databases, one action after another: changes
of the configuration and state databases from outside, faults that come and go, cancellation,
runs, and everything that only looks. The application database is written by runs alone. What it
holds in the end is read off the list of emissions, one for each run that reached the delivery:
under a key stands what the latest emission wrote there, and the messages of all emissions stand
one after another.
-/

set_option autoImplicit false

namespace DualStack

/-! ## Actions -/

/-- A change of a store from outside. -/
inductive StoreChange where
  | hset (key : String) (fields : Fields)
  | del (key : String)
  | replace (key : String) (fields : Fields)
  | setEntry (table key : String) (fields : Fields)
  | publish (channel message : String)
  | clearPublished
deriving DecidableEq, Repr

/-- The store after a change, unless the change fails. -/
def StoreChange.attempt (s : Store) : StoreChange → Except Failure Store
  | hset key fields => s.hset key fields
  | del key => s.del key
  | replace key fields => s.replace key fields
  | setEntry table key fields => s.setEntry table key fields
  | publish channel message => s.publish channel message
  | clearPublished => .ok s.clearPublished

/-- One step of a session. `cancelDuringLoad` says whether cancellation is requested while a table
of the configuration database is listed. -/
inductive Action where
  | changeConfig (change : StoreChange)
  | changeState (change : StoreChange)
  | setUnavailable (database : Database) (value : Bool)
  | failOn (database : Database) (key : String)
  | cancel
  | run (cancelDuringLoad : Bool)
  | doTask (cancelDuringLoad : Bool)
  | check (cancelDuringLoad : Bool)
  | execute (command : Command)
  | detect (interface : String) (cancelDuringLoad : Bool)
  | statistics (interface : String)

/-- What an action answers. -/
inductive Answer where
  | done
  | failed (failure : Failure)
  | ran (result : Except PipelineError RunReport)
  | task (outcome : TaskOutcome)
  | checked (result : Except PipelineError (List ValidationError))
  | executed (result : Except PipelineError CommandOutput)
  | capabilities (families : FamilySet)
  | counters (result : Except PipelineError InterfaceCounters)

/-- A manager with its databases. -/
structure Session where
  manager : Manager
  databases : Databases

namespace Session

/-- The session of a new manager on empty databases. -/
def start (channel : String) : Session := ⟨Manager.new channel, Databases.empty⟩

/-- The session with the store of a database changed, unless the change fails. -/
def changed (s : Session) (database : Database) (result : Except Failure Store) :
    Session × Answer :=
  match result with
  | .ok store => ({ s with databases := s.databases.set database store }, .done)
  | .error failure => (s, .failed failure)

/-- One action, and what it answers. -/
def step (s : Session) : Action → Session × Answer
  | .changeConfig change => s.changed .config (change.attempt s.databases.config)
  | .changeState change => s.changed .state (change.attempt s.databases.state)
  | .setUnavailable database value =>
    s.changed database (.ok ((s.databases.get database).setUnavailable value))
  | .failOn database key => s.changed database (.ok ((s.databases.get database).failOn key))
  | .cancel => ({ s with manager := s.manager.cancel }, .done)
  | .run cancelDuringLoad =>
    let result := s.manager.run s.databases cancelDuringLoad
    (⟨result.manager, result.databases⟩, .ran result.result)
  | .doTask cancelDuringLoad =>
    let (manager, databases, outcome) := s.manager.doTask s.databases cancelDuringLoad
    (⟨manager, databases⟩, .task outcome)
  | .check cancelDuringLoad =>
    ({ s with manager := s.manager.listing cancelDuringLoad },
      .checked (Manager.check s.databases))
  | .execute command =>
    match command.execute s.databases with
    | .ok (output, databases) => ({ s with databases := databases }, .executed (.ok output))
    | .error error => (s, .executed (.error error))
  | .detect interface cancelDuringLoad =>
    ({ s with manager := s.manager.listing cancelDuringLoad },
      .capabilities (Detection.detect s.databases.config interface).1)
  | .statistics interface =>
    (s, .counters ((Statistics.read s.databases.state interface).map Prod.fst))

/-- The session after actions, one after another. -/
def after (s : Session) (actions : List Action) : Session :=
  actions.foldl (fun s action => (s.step action).1) s

/-- Actions in two parts are taken one part after the other. -/
theorem after_append (s : Session) (actions actions' : List Action) :
    s.after (actions ++ actions') = (s.after actions).after actions' :=
  List.foldl_append

end Session

/-! ## Emissions -/

/-- What a run that reaches the delivery emits: the state of a configuration, to an application
database with certain faults. -/
structure Emission where
  config : Config
  appl : Store

namespace Emission

/-- The state that an emission delivers. -/
def state (e : Emission) : DerivedState := (Resolution.of e.config).state

/-- An emission writes a key if it has a record for it and the key does not fail. -/
def Writes (e : Emission) (key : String) : Prop :=
  e.appl.fails key = false ∧ ∃ r ∈ e.state.records, r.key = key

/-- The texts that an emission publishes: one for each interface whose record is written, in the
order of the interfaces, or none if the channel fails. -/
def texts (e : Emission) (channel : String) : List String :=
  if e.appl.fails channel then []
  else (e.config.interfaces.toList.filter fun (name, _) =>
      !e.appl.fails (AppRecord.interfaceKey name)).map fun (name, interface) =>
    (Notification.setDualStack name interface.raw
      (Resolution.flagsOf (Resolution.featureOf e.config) interface)).render

end Emission

namespace Session

/-- The emission of an action: that of a run that is not cancelled and can load. -/
def emission? (s : Session) : Action → Option Emission
  | .run cancelDuringLoad | .doTask cancelDuringLoad =>
    (s.manager.delivery? s.databases cancelDuringLoad).map fun snapshot =>
      ⟨(Validation.of snapshot).config, s.databases.appl⟩
  | _ => none

/-- The emissions of actions, in order. -/
def emissions (s : Session) : List Action → List Emission
  | [] => []
  | action :: actions => (s.emission? action).toList ++ (s.step action).1.emissions actions

end Session

/-! ## From action to action -/

namespace Emission

/-- The hashes that an emission writes. -/
def entries (e : Emission) : List (String × Hash) :=
  DerivedState.entries e.appl e.state.records

/-- Every interface of a derived state has a notification, so one is due for each that is
written. -/
theorem dueNotifications_state (e : Emission) :
    e.state.dueNotifications e.appl = (e.config.interfaces.toList.filter fun (name, _) =>
        !e.appl.fails (AppRecord.interfaceKey name)).map fun (name, interface) =>
      Notification.setDualStack name interface.raw
        (Resolution.flagsOf (Resolution.featureOf e.config) interface) := by
  have hkeys : e.state.interfaces.keys = e.config.interfaces.toList.map Prod.fst := by
    rw [Std.ExtTreeMap.map_fst_toList_eq_keys]
    exact Std.ExtTreeMap.keys_map
  have hget : ∀ pair ∈ e.config.interfaces.toList, e.state.notifications[pair.1]? =
      some (Notification.setDualStack pair.1 pair.2.raw
        (Resolution.flagsOf (Resolution.featureOf e.config) pair.2)) := by
    rintro ⟨name, interface⟩ hpair
    rw [Std.ExtTreeMap.mem_toList_iff_getElem?_eq_some] at hpair
    show (e.config.interfaces.map _)[name]? = _
    rw [Std.ExtTreeMap.getElem?_map, hpair]
    rfl
  unfold DerivedState.dueNotifications
  rw [hkeys, List.filter_map, List.filterMap_map, ← List.filterMap_eq_map]
  refine List.filterMap_congr fun pair hpair => ?_
  exact hget pair (List.mem_filter.1 hpair).1

/-- The messages of a delivery are the texts of the emission on the channel. -/
theorem messages_state (e : Emission) (channel : String) :
    e.state.messages channel e.appl e.state.records =
      (e.texts channel).map fun text => (channel, text) := by
  unfold DerivedState.messages texts
  split
  · rfl
  · rw [DerivedState.filterMap_notificationOf?, dueNotifications_state, List.map_map,
      List.map_map]
    rfl

end Emission

/-- No command changes the application database. -/
theorem Command.appl_execute {command : Command} {dbs : Databases}
    {result : CommandOutput × Databases} (h : command.execute dbs = .ok result) :
    result.2.appl = dbs.appl := by
  -- a record is written to the configuration database
  have hwrite : ∀ {table key : String} {record : Fields} {dbs' : Databases},
      writeRecord dbs table key record = .ok dbs' → dbs'.appl = dbs.appl := by
    intro table key record dbs' hdbs
    unfold writeRecord at hdbs
    split at hdbs
    · cases hdbs
      rfl
    · cases hdbs
  unfold execute at h
  cases command with
  | global _ | interface _ | congestion _ =>
    obtain ⟨dbs', hdbs, hpure⟩ := exists_of_bind_eq_ok h
    cases hpure
    exact hwrite hdbs
  | stats name =>
    obtain ⟨⟨counters, log⟩, -, hpure⟩ := exists_of_bind_eq_ok h
    rw [← Except.ok.inj hpure]
  | capabilities name =>
    rw [← Except.ok.inj h]
  | validate =>
    obtain ⟨errors, -, hpure⟩ := exists_of_bind_eq_ok h
    split at hpure <;> cases hpure <;> rfl

namespace Session

/-- From one session to a later one the application database took exactly the given emissions,
and the manager kept its channel. -/
structure Emitted (s s' : Session) (emissions : List Emission) : Prop where
  channel : s'.manager.channel = s.manager.channel
  hashes : s'.databases.appl.hashes =
    NameMap.insertAll s.databases.appl.hashes (emissions.flatMap Emission.entries)
  published : s'.databases.appl.published = s.databases.appl.published ++
    emissions.flatMap fun e =>
      (e.texts s.manager.channel).map fun text => (s.manager.channel, text)

/-- Emissions one after another add up. -/
theorem Emitted.trans {s s' s'' : Session} {emissions emissions' : List Emission}
    (h : Emitted s s' emissions) (h' : Emitted s' s'' emissions') :
    Emitted s s'' (emissions ++ emissions') where
  channel := h'.channel.trans h.channel
  hashes := by rw [h'.hashes, h.hashes, List.flatMap_append, NameMap.insertAll_append]
  published := by
    rw [h'.published, h.published, h.channel, List.flatMap_append, List.append_assoc]

/-- Nothing is emitted where the channel, the hashes and the messages stay. -/
theorem emitted_nil {s s' : Session} (hchannel : s'.manager.channel = s.manager.channel)
    (hhashes : s'.databases.appl.hashes = s.databases.appl.hashes)
    (hpublished : s'.databases.appl.published = s.databases.appl.published) :
    Emitted s s' [] :=
  ⟨hchannel, hhashes, by simp [hpublished]⟩

/-- A change of another store, or of faults alone, emits nothing. -/
theorem emitted_changed (s : Session) {database : Database} {result : Except Failure Store}
    (h : ∀ store, result = .ok store → database = .appl →
      store.hashes = s.databases.appl.hashes ∧ store.published = s.databases.appl.published) :
    Emitted s (s.changed database result).1 [] := by
  cases result with
  | error failure => exact emitted_nil rfl rfl rfl
  | ok store =>
    cases database with
    | config => exact emitted_nil rfl rfl rfl
    | state => exact emitted_nil rfl rfl rfl
    | appl =>
      obtain ⟨hhashes, hpublished⟩ := h store rfl rfl
      exact emitted_nil rfl hhashes hpublished

/-- A run emits exactly if it reaches the delivery, and then the configuration of its snapshot. -/
theorem emission?_run (s : Session) (cancelDuringLoad : Bool) :
    s.emission? (.run cancelDuringLoad) =
      (s.manager.delivery? s.databases cancelDuringLoad).map fun snapshot =>
        ⟨(Validation.of snapshot).config, s.databases.appl⟩ := rfl

/-- A run takes the emission of its delivery, if it has one. -/
theorem emitted_run (s : Session) (cancelDuringLoad : Bool) :
    Emitted s (s.step (.run cancelDuringLoad)).1
      (s.emission? (.run cancelDuringLoad)).toList := by
  have hchannel := Manager.channel_run s.manager s.databases cancelDuringLoad
  have hafter : (s.step (.run cancelDuringLoad)).1.databases =
      (s.manager.run s.databases cancelDuringLoad).databases := rfl
  rw [emission?_run]
  cases hdelivery : s.manager.delivery? s.databases cancelDuringLoad with
  | none =>
    have hkept := Manager.databases_run_of_none hdelivery
    exact emitted_nil hchannel (by rw [hafter, hkept]) (by rw [hafter, hkept])
  | some snapshot =>
    have hdelivered := Manager.databases_run_of_some hdelivery
    have hstate : snapshot.derivedState =
        Emission.state ⟨(Validation.of snapshot).config, s.databases.appl⟩ := rfl
    rw [DerivedState.apply_eq, hstate] at hdelivered
    refine ⟨hchannel, ?_, ?_⟩
    · rw [hafter, hdelivered]
      simp [DerivedState.delivered, Emission.entries]
    · rw [hafter, hdelivered]
      simp [DerivedState.delivered, ← Emission.messages_state]

/-- A command emits nothing. -/
theorem emitted_execute (s : Session) (command : Command) :
    Emitted s (s.step (.execute command)).1 [] := by
  cases hresult : command.execute s.databases with
  | error error =>
    have hstep : (s.step (.execute command)).1 = s := by simp only [step, hresult]
    rw [hstep]
    exact emitted_nil rfl rfl rfl
  | ok result =>
    have hstep : (s.step (.execute command)).1 = ⟨s.manager, result.2⟩ := by
      simp only [step, hresult]
    rw [hstep]
    have happl := Command.appl_execute hresult
    exact emitted_nil rfl (congrArg Store.hashes happl) (congrArg Store.published happl)

/-- An action takes its emission to the application database and nothing else. -/
theorem emitted_step (s : Session) (action : Action) :
    Emitted s (s.step action).1 (s.emission? action).toList := by
  cases action with
  | changeConfig change => exact s.emitted_changed fun _ _ h => Database.noConfusion h
  | changeState change => exact s.emitted_changed fun _ _ h => Database.noConfusion h
  | setUnavailable database value =>
    refine s.emitted_changed fun store hstore hdatabase => ?_
    subst hdatabase
    cases hstore
    exact ⟨rfl, rfl⟩
  | failOn database key =>
    refine s.emitted_changed fun store hstore hdatabase => ?_
    subst hdatabase
    cases hstore
    exact ⟨rfl, rfl⟩
  | cancel => exact emitted_nil rfl rfl rfl
  | run cancelDuringLoad => exact s.emitted_run cancelDuringLoad
  -- a task is a run whose result is only logged
  | doTask cancelDuringLoad => exact s.emitted_run cancelDuringLoad
  | check cancelDuringLoad =>
    exact emitted_nil (Manager.channel_listing s.manager cancelDuringLoad) rfl rfl
  | execute command => exact s.emitted_execute command
  | detect interface cancelDuringLoad =>
    exact emitted_nil (Manager.channel_listing s.manager cancelDuringLoad) rfl rfl
  | statistics interface => exact emitted_nil rfl rfl rfl

/-- The actions of a session emit their emissions, by induction on the actions. -/
theorem emitted_after (s : Session) (actions : List Action) :
    Emitted s (s.after actions) (s.emissions actions) := by
  induction actions generalizing s with
  | nil => exact emitted_nil rfl rfl rfl
  | cons action actions ih => exact (s.emitted_step action).trans (ih (s.step action).1)

end Session

/-! ## What the application database holds -/

namespace Emission

/-- There is an entry for a key exactly if the emission writes it. -/
theorem exists_mem_entries_iff {e : Emission} {key : String} :
    (∃ pair ∈ e.entries, pair.1 = key) ↔ e.Writes key := by
  constructor
  · rintro ⟨pair, hpair, hkey⟩
    obtain ⟨r, hr, hfails, rfl⟩ := DerivedState.mem_entries.1 hpair
    subst hkey
    exact ⟨hfails, r, hr, rfl⟩
  · rintro ⟨hfails, r, hr, hkey⟩
    subst hkey
    exact ⟨_, DerivedState.mem_entries.2 ⟨r, hr, hfails, rfl⟩, rfl⟩

/-- A record of the last emission that writes its key. -/
def Latest (emissions : List Emission) (r : AppRecord) : Prop :=
  ∃ before e later, emissions = before ++ e :: later ∧ r ∈ e.state.records ∧
    e.appl.fails r.key = false ∧ ∀ e' ∈ later, ¬ e'.Writes r.key

/-- A key that is written by some emission has a latest record. -/
theorem exists_latest {emissions : List Emission} {key : String}
    (h : ∃ e ∈ emissions, e.Writes key) : ∃ r, Latest emissions r ∧ r.key = key := by
  induction emissions with
  | nil => simp at h
  | cons e emissions ih =>
    by_cases hlater : ∃ e' ∈ emissions, e'.Writes key
    · obtain ⟨r, ⟨before, e', later, hsplit, hr⟩, hkey⟩ := ih hlater
      exact ⟨r, ⟨e :: before, e', later, by rw [hsplit, List.cons_append], hr⟩, hkey⟩
    · have hwrites : e.Writes key := by
        simpa [hlater] using h
      obtain ⟨hfails, r, hr, hkey⟩ := hwrites
      subst hkey
      exact ⟨r, ⟨[], e, emissions, rfl, hr, hfails, fun e' he' hw => hlater ⟨e', he', hw⟩⟩, rfl⟩

/-- After all entries are inserted, a key has the hash of its latest record. -/
theorem getElem?_insertAll_of_latest (hashes : NameMap Hash) {emissions : List Emission}
    {r : AppRecord} (h : Latest emissions r) :
    (NameMap.insertAll hashes (emissions.flatMap entries))[r.key]? = some r.fields.toHash := by
  obtain ⟨before, e, later, rfl, hr, hfails, hlater⟩ := h
  have hafter : ∀ pair ∈ later.flatMap entries, pair.1 ≠ r.key := by
    intro pair hpair hkey
    obtain ⟨e', he', hpair⟩ := List.mem_flatMap.1 hpair
    exact hlater e' he' (exists_mem_entries_iff.1 ⟨pair, hpair, hkey⟩)
  rw [List.flatMap_append, List.flatMap_cons, NameMap.insertAll_append,
    NameMap.insertAll_append, NameMap.getElem?_insertAll_of_forall_ne hafter]
  -- the keys within one emission are distinct, so no other record of it is in the way
  exact NameMap.getElem?_insertAll_of_mem (DerivedState.pairwise_entries e.appl e.state)
    (DerivedState.mem_entries.2 ⟨r, hr, hfails, rfl⟩)

/-- After all entries are inserted, there is a hash under a key exactly if there was one before or
an emission writes it. -/
theorem mem_insertAll_iff {hashes : NameMap Hash} {emissions : List Emission} {key : String} :
    key ∈ NameMap.insertAll hashes (emissions.flatMap entries) ↔
      key ∈ hashes ∨ ∃ e ∈ emissions, e.Writes key := by
  rw [NameMap.mem_insertAll]
  simp only [List.mem_flatMap, ← exists_mem_entries_iff]
  constructor
  · rintro (hkey | ⟨pair, ⟨e, he, hpair⟩, hkey⟩)
    · exact Or.inl hkey
    · exact Or.inr ⟨e, he, pair, hpair, hkey⟩
  · rintro (hkey | ⟨e, he, pair, hpair, hkey⟩)
    · exact Or.inl hkey
    · exact Or.inr ⟨pair, ⟨e, he, hpair⟩, hkey⟩

end Emission

namespace Session

/-- What a session from empty databases leaves in the application database: the keys that some
emission wrote, under each of them the record of the latest such emission and nothing of an older
one, and the texts of all emissions in order. What is there stays there, whatever comes. -/
theorem appl_after_start (channel : String) (actions : List Action) :
    let appl := ((start channel).after actions).databases.appl
    let emissions := (start channel).emissions actions
    (∀ key, key ∈ appl.hashes ↔ ∃ e ∈ emissions, e.Writes key) ∧
    (∀ key hash, appl.hashes[key]? = some hash ↔
      ∃ r, Emission.Latest emissions r ∧ r.key = key ∧ r.fields.toHash = hash) ∧
    (∀ actions' key, key ∈ appl.hashes →
      key ∈ ((start channel).after (actions ++ actions')).databases.appl.hashes) ∧
    appl.published =
      emissions.flatMap fun e => (e.texts channel).map fun text => (channel, text) := by
  intro appl emissions
  have hemitted := (start channel).emitted_after actions
  -- the database starts empty, so all that it holds comes from the emissions
  have hhashes : appl.hashes = NameMap.insertAll ∅ (emissions.flatMap Emission.entries) :=
    hemitted.hashes
  have hmem : ∀ key, key ∈ appl.hashes ↔ ∃ e ∈ emissions, e.Writes key := by
    intro key
    rw [hhashes, Emission.mem_insertAll_iff]
    simp
  refine ⟨hmem, ?_, ?_, ?_⟩
  · intro key hash
    constructor
    · intro hkey
      obtain ⟨r, hr, rfl⟩ := Emission.exists_latest
        ((hmem key).1 (Std.ExtTreeMap.mem_iff_isSome_getElem?.2 (by rw [hkey]; rfl)))
      refine ⟨r, hr, rfl, ?_⟩
      rw [hhashes, Emission.getElem?_insertAll_of_latest ∅ hr] at hkey
      exact Option.some.inj hkey
    · rintro ⟨r, hr, rfl, rfl⟩
      rw [hhashes]
      exact Emission.getElem?_insertAll_of_latest ∅ hr
  · intro actions' key hkey
    have hlater := ((start channel).after actions).emitted_after actions'
    rw [after_append, hlater.hashes, Emission.mem_insertAll_iff]
    exact Or.inl hkey
  · exact hemitted.published

end Session

end DualStack

import DualStack.Proofs.Gating
import DualStack.Proofs.LoadOutcome
import DualStack.Proofs.ReadBack
import DualStack.Proofs.Session

/-!
# What a message tells its reader

A message is read back as the notification it was written from, so two notifications have different
messages, and a text that is read as one can be written again without a change of its meaning. What
a run publishes is true: the fields in a message are the hash that the configuration database has
for the interface, whatever texts are in it, and the flags are the ones that the run has written to
the application database. The flags are written first; a message is due only behind a record whose
key does not fail.
-/

set_option autoImplicit false

namespace DualStack

namespace Notification

/-- Different notifications are published as different texts. -/
theorem render_injective : Function.Injective render :=
  fun n n' h => Option.some.inj (by rw [← parse?_render n, h, parse?_render n'])

/-- A notification tells what the configuration database has for an interface and what the
application database says about it. -/
structure TrueOf (n : Notification) (config appl : Store) : Prop where
  operation : n.operation = "SET_DUAL_STACK"
  /-- The fields are the hash of the interface, all of it. -/
  stored : config.hashes[config.database.recordKey Scope.interface.table n.interface]? =
    some n.config
  /-- A load lists the interface with these fields. -/
  loaded : ∃ snapshot, Snapshot.load config = .ok snapshot ∧
    (n.interface, n.config.toList) ∈ snapshot.interfaces
  /-- The flags are those of the record of the interface. -/
  flags : ∃ written, appl.hashes[AppRecord.interfaceKey n.interface]? = some written ∧
    written["ipv4_enabled"]? = some (boolText n.capabilities.ipv4) ∧
    written["ipv6_enabled"]? = some (boolText n.capabilities.ipv6)

end Notification

namespace Snapshot

/-- An accepted interface repeats the hash that is stored for it. -/
theorem stored_of_accepted {s : Store} {snapshot : Snapshot} (hload : load s = .ok snapshot)
    {name : String} {interface : InterfaceConfig}
    (h : (Validation.configOf snapshot).interfaces[name]? = some interface) :
    s.hashes[s.database.recordKey Scope.interface.table name]? = some interface.raw ∧
      (name, interface.raw.toList) ∈ snapshot.interfaces := by
  rw [getElem?_interfaces_configOf, Option.bind_eq_some_iff] at h
  obtain ⟨fields, hrecord, haccepted⟩ := h
  rw [Option.join_eq_some_iff, toOption_eq_some_iff] at haccepted
  have hraw : interface.raw = fields.toHash := (Decode.of_interface_eq_some haccepted).2.2
  have hmem := Validation.mem_of_lastRecord? hrecord
  have hstored := (lastRecord?_of_load hload .interface name).symm.trans hrecord
  obtain ⟨hash, hhash, -, rfl⟩ := Store.record?_eq_some_iff.1 hstored
  rw [hraw, Fields.toHash, NameMap.ofPairs_toList]
  exact ⟨hhash, hmem⟩

end Snapshot

namespace Emission

/-- Behind a written interface the application database has the flags of that interface. -/
theorem flags_delivered (e : Emission) (channel : String) {name : String}
    {interface : InterfaceConfig} (h : e.config.interfaces[name]? = some interface)
    (hfails : e.appl.fails (AppRecord.interfaceKey name) = false) :
    ∃ written, (e.state.delivered channel e.state.records e.appl).hashes[
        AppRecord.interfaceKey name]? = some written ∧
      written["ipv4_enabled"]? =
        some (boolText (Resolution.flagsOf (Resolution.featureOf e.config) interface).ipv4) ∧
      written["ipv6_enabled"]? =
        some (boolText (Resolution.flagsOf (Resolution.featureOf e.config) interface).ipv6) := by
  have hderived : e.state.interfaces[name]? =
      some (Resolution.interfaceOf (Resolution.featureOf e.config) interface) := by
    rw [state, Resolution.getElem?_interfaces_of, h, Option.map_some]
  obtain ⟨hmem, -⟩ := DerivedState.mem_records_interface.2 ⟨name, _, hderived, rfl⟩
  obtain ⟨-, h4, h6, -⟩ := AppRecord.value?_ofInterface name
    (Resolution.interfaceOf (Resolution.featureOf e.config) interface)
  refine ⟨_, e.state.getElem?_delivered_of_mem channel hmem hfails, ?_, ?_⟩
  · rw [Fields.getElem?_toHash, h4]
    rfl
  · rw [Fields.getElem?_toHash, h6]
    rfl

/-- Every text of a delivery is the message of a notification that is true. -/
theorem trueOf_texts {config appl : Store} {snapshot : Snapshot}
    (hload : Snapshot.load config = .ok snapshot) {channel text : String} :
    let e : Emission := ⟨(Validation.of snapshot).config, appl⟩
    text ∈ e.texts channel → ∃ n : Notification, n.render = text ∧
      n.TrueOf config (e.state.delivered channel e.state.records appl) := by
  intro e htext
  unfold texts at htext
  split at htext
  · cases htext
  · obtain ⟨⟨name, interface⟩, hmem, rfl⟩ := List.mem_map.1 htext
    obtain ⟨hinterface, hfails⟩ := List.mem_filter.1 hmem
    rw [Std.ExtTreeMap.mem_toList_iff_getElem?_eq_some] at hinterface
    rw [Bool.not_eq_true'] at hfails
    obtain ⟨hstored, hloaded⟩ := Snapshot.stored_of_accepted hload hinterface
    exact ⟨_, rfl, rfl, hstored, ⟨snapshot, hload, hloaded⟩,
      e.flags_delivered channel hinterface hfails⟩

end Emission

namespace Notification

/-- A run adds messages of true notifications to what is published, and nothing else. -/
theorem trueOf_run (m : Manager) (dbs : Databases) (cancelDuringLoad : Bool) :
    ∃ texts : List String, (m.run dbs cancelDuringLoad).databases.appl.published =
        dbs.appl.published ++ texts.map (fun text => (m.channel, text)) ∧
      ∀ text ∈ texts, ∃ n : Notification, n.render = text ∧
        n.TrueOf dbs.config (m.run dbs cancelDuringLoad).databases.appl := by
  cases hdelivery : m.delivery? dbs cancelDuringLoad with
  | none =>
    refine ⟨[], ?_, by simp⟩
    rw [Manager.databases_run_of_none hdelivery, List.map_nil, List.append_nil]
  | some snapshot =>
    obtain ⟨-, -, hload⟩ := Manager.delivery?_eq_some_iff.1 hdelivery
    let e : Emission := ⟨(Validation.of snapshot).config, dbs.appl⟩
    have happl : (m.run dbs cancelDuringLoad).databases.appl =
        e.state.delivered m.channel e.state.records dbs.appl := by
      rw [Manager.databases_run_of_some hdelivery, DerivedState.apply_eq]
      rfl
    rw [happl]
    refine ⟨e.texts m.channel, ?_, fun text htext => Emission.trueOf_texts hload htext⟩
    rw [← Emission.messages_state]
    rfl

/-- A notification is read back from its message, whatever texts it has in it. So different
notifications have different messages, and a text that is read as a notification keeps its meaning
when it is written again. Everything that a run publishes is read as a notification that is true of
what the run has loaded and written. -/
theorem read_back_from_message :
    (∀ n : Notification, parse? n.render = some n) ∧
    (∀ n n' : Notification, n ≠ n' → n.render ≠ n'.render) ∧
    (∀ text n, parse? text = some n → parse? n.render = some n) ∧
    (∀ (m : Manager) dbs cancelDuringLoad,
      let after := (m.run dbs cancelDuringLoad).databases
      ∃ texts : List String, after.appl.published =
          dbs.appl.published ++ texts.map (fun text => (m.channel, text)) ∧
        ∀ text ∈ texts, ∃ n, parse? text = some n ∧ n.TrueOf dbs.config after.appl) := by
  refine ⟨parse?_render, fun n n' => mt fun h => render_injective h, ?_, ?_⟩
  · intro text n _
    exact parse?_render n
  · intro m dbs cancelDuringLoad after
    obtain ⟨texts, hpublished, htrue⟩ := trueOf_run m dbs cancelDuringLoad
    refine ⟨texts, hpublished, fun text htext => ?_⟩
    obtain ⟨n, rfl, hn⟩ := htrue text htext
    exact ⟨n, parse?_render n, hn⟩

end Notification

end DualStack

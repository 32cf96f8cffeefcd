import DualStack.Proofs.Store
import Mathlib.Data.String.Basic

/-!
# What a store answers, told from its history

A store is a tree of trees with two kinds of faults. What it answers can be told without the trees,
from the requests that were made of it since it was empty. The faults are those that were switched
on, and they decide which requests took effect. A field has the value that was set last, unless its
key was removed or replaced since; a key is there if it was made and not removed since; and a list
of either is in code-point order without repetitions. The invariant is that hashes and faults say
just this of the history so far, and each request keeps it.
-/

set_option autoImplicit false

namespace DualStack

/-- In a list something of one kind occurs, and behind it nothing of the other kind. -/
def Since {α : Type} (started ended : α → Prop) (log : List α) : Prop :=
  ∃ before a after, log = before ++ a :: after ∧ started a ∧ ∀ later ∈ after, ¬ ended later

/-- In an empty list nothing has started. -/
theorem not_since_nil {α : Type} {started ended : α → Prop} : ¬ Since started ended [] := by
  rintro ⟨before, a, after, hlog, -⟩
  simp at hlog

/-- Behind one more element, something has started since if the element starts it, or does not end
it and it had started before. -/
theorem since_append_singleton {α : Type} {started ended : α → Prop} {log : List α} {a : α} :
    Since started ended (log ++ [a]) ↔ started a ∨ ¬ ended a ∧ Since started ended log := by
  constructor
  · rintro ⟨before, b, after, hlog, hb, hafter⟩
    rcases List.eq_nil_or_concat after with rfl | ⟨after, c, rfl⟩
    · obtain ⟨-, hlast⟩ := List.append_inj' hlog rfl
      cases hlast
      exact .inl hb
    · have hsplit : log ++ [a] = (before ++ b :: after) ++ [c] := by simpa using hlog
      obtain ⟨rfl, hlast⟩ := List.append_inj' hsplit rfl
      cases hlast
      exact .inr ⟨hafter a (by simp), before, b, after, rfl, hb,
        fun later hlater => hafter later (by simp [hlater])⟩
  · rintro (ha | ⟨ha, before, b, after, rfl, hb, hafter⟩)
    · exact ⟨log, a, [], rfl, ha, by simp⟩
    · refine ⟨before, b, after ++ [a], by simp, hb, ?_⟩
      simpa [or_imp, forall_and] using ⟨hafter, ha⟩

/-! ## Requests -/

/-- What can be asked of a store: a change, a fault to be switched, or a look at it. -/
inductive Request where
  | hset (key : String) (fields : Fields)
  | del (key : String)
  | replace (key : String) (fields : Fields)
  | publish (channel message : String)
  | setUnavailable (value : Bool)
  | failOn (key : String)
  | hgetall (key : String)
  | hget (key name : String)
  | keys (pattern : String)
deriving DecidableEq, Repr

/-- What a store says to a request. -/
inductive Reply where
  | done
  | failed (failure : Failure)
  | fields (fields : Fields)
  | value (value : Option String)
  | keys (keys : List String)
deriving DecidableEq, Repr

namespace Store

/-- Store and reply of a request with a result, or the store as it was if the request fails. -/
def answered {α : Type} (s : Store) (answer : α → Store × Reply) :
    Except Failure α → Store × Reply
  | .ok a => answer a
  | .error failure => (s, .failed failure)

/-- One request: the store behind it, and the reply. -/
def serve (s : Store) : Request → Store × Reply
  | .hset key fields => s.answered (·, .done) (s.hset key fields)
  | .del key => s.answered (·, .done) (s.del key)
  | .replace key fields => s.answered (·, .done) (s.replace key fields)
  | .publish channel message => s.answered (·, .done) (s.publish channel message)
  | .setUnavailable value => (s.setUnavailable value, .done)
  | .failOn key => (s.failOn key, .done)
  | .hgetall key => s.answered (s, .fields ·) (s.hgetall key)
  | .hget key name => s.answered (s, .value ·) (s.hget key name)
  | .keys pattern => s.answered (s, .keys ·) (s.keys pattern)

/-- The store after requests, one after another. -/
def served (s : Store) (requests : List Request) : Store :=
  requests.foldl (fun s request => (s.serve request).1) s

end Store

/-! ## Histories -/

/-- The requests that were made of a store, in order. -/
abbrev History := List Request

namespace Request

/-- The key, the key pattern or the channel at which a request may fail. -/
def subject? : Request → Option String
  | hset key _ | del key | replace key _ | hgetall key | hget key _ => some key
  | publish channel _ => some channel
  | keys pattern => some pattern
  | setUnavailable _ | failOn _ => none

/-- What a request switches the store to. -/
def switch? : Request → Option Bool
  | setUnavailable value => some value
  | _ => none

/-- The request gives a field of a hash a value: the last one that it has for the field. -/
def Sets (key name value : String) : Request → Prop
  | hset k fields | replace k fields => k = key ∧ fields.value? name = some value
  | _ => False

/-- After the request no older value of a field is left. -/
def Overwrites (key name : String) : Request → Prop
  | hset k fields => k = key ∧ ∃ value, fields.value? name = some value
  | replace k _ | del k => k = key
  | _ => False

/-- After the request there is a hash under the key. -/
def Creates (key : String) : Request → Prop
  | hset k _ => k = key
  | replace k fields => k = key ∧ fields ≠ []
  | _ => False

/-- After the request there is no hash under the key. -/
def Removes (key : String) : Request → Prop
  | del k => k = key
  | replace k fields => k = key ∧ fields = []
  | _ => False

end Request

namespace History

/-- Whether a history leaves the store unavailable: its last switch decides. -/
def unavailable (history : History) : Bool :=
  (history.filterMap Request.switch?).getLast?.getD false

/-- Whether the requests on a key, a key pattern or a channel fail behind a history. -/
def blocks (history : History) (subject : String) : Bool :=
  history.unavailable || history.contains (.failOn subject)

/-- Whether a request fails behind a history. -/
def refuses (history : History) (request : Request) : Bool :=
  request.subject?.any history.blocks

/-- The requests that take effect when they come behind a history. -/
def effectsBehind (history : History) : List Request → List Request
  | [] => []
  | request :: requests =>
    (if history.refuses request then [] else [request]) ++
      effectsBehind (history ++ [request]) requests

/-- The requests of a history that took effect. -/
def effects (history : History) : List Request :=
  effectsBehind [] history

/-- One more request takes effect exactly if it does not fail behind the history. -/
theorem effects_append_singleton (history : History) (request : Request) :
    effects (history ++ [request]) =
      history.effects ++ if history.refuses request then [] else [request] := by
  have hbehind : ∀ past requests : List Request, effectsBehind past (requests ++ [request]) =
      effectsBehind past requests ++ if refuses (past ++ requests) request then []
        else [request] := by
    intro past requests
    induction requests generalizing past with
    | nil => simp [effectsBehind]
    | cons first requests ih => simp [effectsBehind, ih]
  exact hbehind [] history

/-- The value of a field behind a history: it was set, and since then not again, nor was its key
removed or replaced. -/
def Holds (history : History) (key name value : String) : Prop :=
  Since (Request.Sets key name value) (Request.Overwrites key name) history.effects

/-- There is a hash under a key behind a history: it was made and not removed since. -/
def Present (history : History) (key : String) : Prop :=
  Since (Request.Creates key) (Request.Removes key) history.effects

end History

/-- A key is the pattern, or it begins with what stands in front of a star at the end of the
pattern. -/
def Matches (pattern key : String) : Prop :=
  key = pattern ∨ ∃ lead, pattern = lead ++ "*" ∧ lead.toList <+: key.toList

/-- The reply that a request deserves behind a history that does not make it fail. -/
def History.Answers (history : History) : Request → Reply → Prop
  | .hgetall key, reply => ∃ fields, reply = .fields fields ∧
      (fields.Pairwise fun a b => a.1 < b.1) ∧
      ∀ name value, (name, value) ∈ fields ↔ history.Holds key name value
  | .hget key name, reply => ∃ found, reply = .value found ∧
      ∀ value, found = some value ↔ history.Holds key name value
  | .keys pattern, reply => ∃ listed, reply = .keys listed ∧
      (listed.Pairwise fun a b => a < b) ∧
      ∀ key, key ∈ listed ↔ history.Present key ∧ Matches pattern key
  | _, reply => reply = .done

/-! ## One request -/

/-- After fields are set, a name has its last value among them, or the one that it had. -/
theorem Fields.getElem?_insertAll (hash : Hash) (fields : Fields) (name : String) :
    (NameMap.insertAll hash fields)[name]? = (fields.value? name).or hash[name]? := by
  rw [NameMap.getElem?_insertAll, value?_eq_find?]

namespace Store

/-- What a request that does not fail makes of a store. -/
def effect (s : Store) : Request → Store
  | .hset key fields =>
    { s with hashes := s.hashes.insert key (NameMap.insertAll (s.hashes[key]?.getD ∅) fields) }
  | .del key => { s with hashes := s.hashes.erase key }
  | .replace key fields =>
    { s with hashes :=
        if fields.isEmpty then s.hashes.erase key else s.hashes.insert key fields.toHash }
  | .publish channel message => { s with published := s.published ++ [(channel, message)] }
  | .setUnavailable value => s.setUnavailable value
  | .failOn key => s.failOn key
  | .hgetall _ | .hget _ _ | .keys _ => s

/-- What a store replies to a request that does not fail. -/
def reply (s : Store) : Request → Reply
  | .hgetall key => .fields (s.hashes[key]?.getD ∅).toList
  | .hget key name => .value (s.hashes[key]?.bind (·[name]?))
  | .keys pattern => .keys (s.hashes.keys.filter (keyMatches pattern))
  | _ => .done

/-- A request with a result on a guarded key gets its failure if the key fails, and its result
otherwise. -/
theorem answered_guarded {α : Type} (s : Store) (answer : α → Store × Reply)
    (operation : Operation) (key : String) (result : α) :
    let answered := s.answered answer (s.guarded operation key result)
    if s.fails key then ∃ failure, answered = (s, .failed failure)
    else answered = answer result := by
  rw [guarded_eq]
  cases s.fails key with
  | true => exact ⟨_, rfl⟩
  | false => rfl

/-- A request fails exactly if its subject does, and then the store is as it was. -/
theorem serve_eq (s : Store) (request : Request) :
    if request.subject?.any s.fails then ∃ failure, s.serve request = (s, .failed failure)
    else s.serve request = (s.effect request, s.reply request) := by
  cases request with
  | hset key fields => exact s.answered_guarded (·, .done) .hset key _
  | del key => exact s.answered_guarded (·, .done) .del key _
  | replace key fields =>
    have hguarded : s.replace key fields = s.guarded .del key (s.effect (.replace key fields)) := by
      rw [replace_eq, guarded_eq]
      rfl
    simp only [serve, hguarded]
    exact s.answered_guarded (·, .done) .del key _
  | publish channel message => exact s.answered_guarded (·, .done) .publish channel _
  | setUnavailable value => rfl
  | failOn key => rfl
  | hgetall key => exact s.answered_guarded (s, .fields ·) .hgetall key _
  | hget key name => exact s.answered_guarded (s, .value ·) .hget key _
  | keys pattern => exact s.answered_guarded (s, .keys ·) .keys pattern _

/-- A request on a key that fails is answered by a failure and changes nothing. -/
theorem serve_of_fails (s : Store) (request : Request)
    (h : request.subject?.any s.fails = true) :
    ∃ failure, s.serve request = (s, .failed failure) := by
  have hserve := s.serve_eq request
  rwa [if_pos h] at hserve

/-- A request on a key that does not fail has its effect and its reply. -/
theorem serve_of_not_fails (s : Store) (request : Request)
    (h : request.subject?.any s.fails = false) :
    s.serve request = (s.effect request, s.reply request) := by
  have hserve := s.serve_eq request
  rwa [if_neg (by simp [h])] at hserve

/-- Replacing a hash by fields that are not empty puts the hash of these fields there. -/
theorem effect_replace_of_ne_nil {s : Store} {key : String} {fields : Fields} (h : fields ≠ []) :
    s.effect (.replace key fields) = { s with hashes := s.hashes.insert key fields.toHash } := by
  cases fields with
  | nil => exact absurd rfl h
  | cons pair rest => rfl

/-- A hash that is removed and then set is replaced. -/
theorem effect_del_hset (s : Store) (key : String) {fields : Fields} (h : fields ≠ []) :
    (s.effect (.del key)).effect (.hset key fields) = s.effect (.replace key fields) := by
  rw [effect_replace_of_ne_nil h]
  simp only [effect]
  rw [insert_insertAll_erase]

/-- Replacing a hash leaves what removing it and then filling it leaves: if the removal goes
through, so does the rest. -/
theorem fst_serve_replace (s : Store) (key : String) (fields : Fields) :
    (s.serve (.replace key fields)).1 =
      let cleared := (s.serve (.del key)).1
      if fields = [] then cleared else (cleared.serve (.hset key fields)).1 := by
  cases hfails : s.fails key with
  | true =>
    obtain ⟨_, hdel⟩ := s.serve_of_fails (.del key) hfails
    obtain ⟨_, hhset⟩ := s.serve_of_fails (.hset key fields) hfails
    obtain ⟨_, hreplace⟩ := s.serve_of_fails (.replace key fields) hfails
    simp [hdel, hhset, hreplace]
  | false =>
    have hcleared : (s.effect (.del key)).fails key = false := hfails
    have hhset := serve_of_not_fails _ (.hset key fields) hcleared
    rw [s.serve_of_not_fails (.del key) hfails, s.serve_of_not_fails (.replace key fields) hfails]
    simp only [hhset]
    split
    · next hfields =>
      subst hfields
      rfl
    · next hfields => exact (s.effect_del_hset key hfields).symm

/-- The value of a field, if its hash is there and has it. -/
def value? (s : Store) (key name : String) : Option String :=
  s.hashes[key]?.bind (·[name]?)

/-- After a request a field has a value exactly if the request sets it, or leaves the field alone
and it had the value before. -/
theorem value?_effect_eq_some_iff {s : Store} {request : Request} {key name value : String} :
    (s.effect request).value? key name = some value ↔
      request.Sets key name value ∨
        ¬ request.Overwrites key name ∧ s.value? key name = some value := by
  cases request with
  | hset k fields =>
    simp only [value?, effect, Request.Sets, Request.Overwrites, Std.ExtTreeMap.getElem?_insert,
      Std.LawfulEqCmp.compare_eq_iff_eq]
    by_cases hkey : k = key
    · subst hkey
      rw [if_pos rfl, Option.bind_some, Fields.getElem?_insertAll]
      cases fields.value? name <;> cases s.hashes[k]? <;> simp
    · simp [hkey]
  | del k =>
    simp only [value?, effect, Request.Sets, Request.Overwrites, Std.ExtTreeMap.getElem?_erase,
      Std.LawfulEqCmp.compare_eq_iff_eq]
    by_cases hkey : k = key <;> simp [hkey]
  | replace k fields =>
    -- replacing a hash by no fields removes it
    simp only [value?, effect, Request.Sets, Request.Overwrites]
    by_cases hkey : k = key
    · subst hkey
      cases fields with
      | nil => simp [Fields.value?]
      | cons pair rest => simp [Fields.getElem?_toHash]
    · cases fields <;> simp [Std.ExtTreeMap.getElem?_erase, Std.ExtTreeMap.getElem?_insert, hkey]
  | publish channel message => simp [effect, value?, Request.Sets, Request.Overwrites]
  | setUnavailable v => simp [effect, value?, Request.Sets, Request.Overwrites, setUnavailable]
  | failOn k => simp [effect, value?, Request.Sets, Request.Overwrites, failOn]
  | hgetall k => simp [effect, Request.Sets, Request.Overwrites]
  | hget k field => simp [effect, Request.Sets, Request.Overwrites]
  | keys pattern => simp [effect, Request.Sets, Request.Overwrites]

/-- After a request there is a hash under a key exactly if the request makes one, or does not remove
it and there was one. -/
theorem mem_hashes_effect_iff {s : Store} {request : Request} {key : String} :
    key ∈ (s.effect request).hashes ↔
      request.Creates key ∨ ¬ request.Removes key ∧ key ∈ s.hashes := by
  cases request with
  | hset k fields => simp [effect, Request.Creates, Request.Removes]
  | del k => simp [effect, Request.Creates, Request.Removes]
  | replace k fields =>
    cases fields <;> simp [effect, Request.Creates, Request.Removes]
  | publish channel message => simp [effect, Request.Creates, Request.Removes]
  | setUnavailable v => simp [effect, Request.Creates, Request.Removes, setUnavailable]
  | failOn k => simp [effect, Request.Creates, Request.Removes, failOn]
  | hgetall k => simp [effect, Request.Creates, Request.Removes]
  | hget k field => simp [effect, Request.Creates, Request.Removes]
  | keys pattern => simp [effect, Request.Creates, Request.Removes]

/-- A request has an effect on the hash of its own key only. -/
theorem getElem?_hashes_effect {s : Store} {request : Request} {key : String}
    (h : request.subject? ≠ some key) : (s.effect request).hashes[key]? = s.hashes[key]? := by
  cases request with
  | hset k fields =>
    have hkey : k ≠ key := by simpa [Request.subject?] using h
    simp [effect, Std.ExtTreeMap.getElem?_insert, hkey]
  | del k =>
    have hkey : k ≠ key := by simpa [Request.subject?] using h
    simp [effect, Std.ExtTreeMap.getElem?_erase, hkey]
  | replace k fields =>
    have hkey : k ≠ key := by simpa [Request.subject?] using h
    cases fields <;>
      simp [effect, Std.ExtTreeMap.getElem?_erase, Std.ExtTreeMap.getElem?_insert, hkey]
  | publish channel message => rfl
  | setUnavailable v => rfl
  | failOn k => rfl
  | hgetall k => rfl
  | hget k field => rfl
  | keys pattern => rfl

/-- After a request the store is switched as the request says, or as it was. -/
theorem unavailable_effect (s : Store) (request : Request) :
    (s.effect request).unavailable = request.switch?.getD s.unavailable := by
  cases request <;> rfl

/-- After a request the failing keys are those from before and the one that the request names. -/
theorem contains_failing_effect (s : Store) (request : Request) (key : String) :
    (s.effect request).failing.contains key =
      (s.failing.contains key || request == .failOn key) := by
  cases request with
  | failOn k =>
    by_cases hkey : k = key
    · simp [effect, failOn, hkey]
    · have hother : (Request.failOn k == Request.failOn key) = false := by simpa using hkey
      simp [effect, failOn, hkey, hother]
  | _ => simp [effect, setUnavailable]

/-- The matcher of patterns takes exactly the keys that match. -/
theorem keyMatches_iff {pattern key : String} :
    keyMatches pattern key = true ↔ Matches pattern key := by
  have hstar : ∀ lead : String, pattern = lead ++ "*" ↔ pattern.toList = lead.toList ++ ['*'] := by
    intro lead
    rw [← String.toList_inj, String.toList_append]
    rfl
  unfold keyMatches Matches
  by_cases hlast : pattern.toList.getLast? = some '*'
  · obtain ⟨lead, hlead⟩ := List.getLast?_eq_some_iff.1 hlast
    have hpattern : pattern = String.ofList lead ++ "*" := by
      rw [hstar, hlead, String.toList_ofList]
    rw [if_pos hlast, hlead, List.dropLast_concat, Option.isSome_iff_exists]
    simp only [Text.after?_eq_some_iff]
    constructor
    · rintro ⟨rest, hrest⟩
      exact .inr ⟨_, hpattern, rest, by rw [hrest, String.toList_ofList]⟩
    · rintro (rfl | ⟨lead', hpattern', rest, hrest⟩)
      · exact ⟨['*'], hlead⟩
      · rw [hstar, hlead] at hpattern'
        obtain ⟨rfl, -⟩ := List.append_inj' hpattern' rfl
        exact ⟨rest, hrest.symm⟩
  · rw [if_neg hlast, beq_iff_eq]
    constructor
    · exact .inl
    · rintro (hkey | ⟨lead, hpattern, -⟩)
      · exact hkey
      · rw [(hstar lead).1 hpattern, List.getLast?_concat] at hlast
        exact absurd rfl hlast

end Store

/-! ## All requests -/

namespace History

/-- One more request decides whether the store is unavailable if it is a switch. -/
theorem unavailable_append_singleton (history : History) (request : Request) :
    unavailable (history ++ [request]) = request.switch?.getD history.unavailable := by
  unfold unavailable
  rw [List.filterMap_append]
  cases hswitch : request.switch? <;> simp [hswitch]

end History

namespace Store

/-- Hashes and faults of a store say what a history says. -/
structure Reflects (s : Store) (history : History) : Prop where
  unavailable : s.unavailable = history.unavailable
  failing : ∀ key, s.failing.contains key = history.contains (.failOn key)
  value : ∀ key name value, s.value? key name = some value ↔ history.Holds key name value
  present : ∀ key, key ∈ s.hashes ↔ history.Present key

/-- An empty store reflects the empty history. -/
theorem reflects_empty (database : Database) : (empty database).Reflects [] where
  unavailable := rfl
  failing _ := rfl
  value key name value := by
    have hnothing : ¬ History.Holds [] key name value := not_since_nil
    simp [hnothing, value?, empty]
  present key := by
    have hnothing : ¬ History.Present [] key := not_since_nil
    simp [hnothing, empty]

variable {s : Store} {history : History}

/-- A store that reflects a history fails on the keys that the history blocks. -/
theorem Reflects.fails_eq (h : s.Reflects history) (key : String) :
    s.fails key = history.blocks key := by
  unfold fails History.blocks
  rw [h.unavailable, h.failing]

/-- A store that reflects a history refuses the requests that the history makes fail. -/
theorem Reflects.refuses_eq (h : s.Reflects history) (request : Request) :
    request.subject?.any s.fails = history.refuses request := by
  unfold History.refuses
  congr 1
  exact funext h.fails_eq

/-- A request that the history makes fail is answered by a failure and changes nothing. -/
theorem Reflects.serve_of_refuses (h : s.Reflects history) {request : Request}
    (hrefuses : history.refuses request = true) :
    ∃ failure, s.serve request = (s, .failed failure) :=
  s.serve_of_fails request ((h.refuses_eq request).trans hrefuses)

/-- A request that the history does not make fail has its effect and its reply. -/
theorem Reflects.serve_of_not_refuses (h : s.Reflects history) {request : Request}
    (hserved : history.refuses request = false) :
    s.serve request = (s.effect request, s.reply request) :=
  s.serve_of_not_fails request ((h.refuses_eq request).trans hserved)

/-- One request more is one request more in the history. -/
theorem Reflects.step (h : s.Reflects history) (request : Request) :
    (s.serve request).1.Reflects (history ++ [request]) := by
  have hlog := history.effects_append_singleton request
  cases hrefuses : history.refuses request with
  | true =>
    -- switches have no subject, so a request that fails is none of them
    obtain ⟨failure, hserve⟩ := h.serve_of_refuses hrefuses
    have hswitch : request.switch? = none := by
      cases request <;> simp_all [History.refuses, Request.subject?, Request.switch?]
    have hfail : ∀ key, request ≠ .failOn key := by
      rintro key rfl
      simp [History.refuses, Request.subject?] at hrefuses
    rw [hrefuses, if_pos rfl, List.append_nil] at hlog
    rw [hserve]
    constructor
    · rw [History.unavailable_append_singleton, hswitch, Option.getD_none, h.unavailable]
    · intro key
      rw [h.failing]
      simp [(hfail key).symm]
    · intro key name value
      rw [h.value, History.Holds, History.Holds, hlog]
    · intro key
      rw [h.present, History.Present, History.Present, hlog]
  | false =>
    rw [hrefuses, if_neg Bool.false_ne_true] at hlog
    rw [h.serve_of_not_refuses hrefuses]
    constructor
    · rw [unavailable_effect, History.unavailable_append_singleton, h.unavailable]
    · intro key
      rw [contains_failing_effect, h.failing]
      simp [eq_comm, beq_eq_decide]
    · intro key name value
      rw [value?_effect_eq_some_iff, h.value, History.Holds, History.Holds, hlog,
        since_append_singleton]
    · intro key
      rw [mem_hashes_effect_iff, h.present, History.Present, History.Present, hlog,
        since_append_singleton]

/-- A store reflects everything that was asked of it. -/
theorem Reflects.served (h : s.Reflects history) (requests : List Request) :
    (s.served requests).Reflects (history ++ requests) := by
  induction requests generalizing s history with
  | nil => rwa [List.append_nil]
  | cons request requests ih =>
    have hlater := ih (h.step request)
    rwa [List.append_assoc, List.singleton_append] at hlater

/-- After any requests an empty store reflects them, by induction on the requests. -/
theorem reflects_served_empty (database : Database) (history : History) :
    ((empty database).served history).Reflects history :=
  (reflects_empty database).served history

/-! ## Replies -/

/-- A field is listed for a key exactly if the hash of the key has it. -/
theorem mem_toList_iff {hashes : NameMap Hash} {key name value : String} :
    (name, value) ∈ (hashes[key]?.getD ∅).toList ↔ hashes[key]?.bind (·[name]?) = some value := by
  cases hashes[key]? <;> simp [Std.ExtTreeMap.mem_toList_iff_getElem?_eq_some]

/-- The reply of a store that reflects a history is the one that the request deserves. -/
theorem Reflects.answers (h : s.Reflects history) (request : Request) :
    history.Answers request (s.reply request) := by
  cases request with
  | hgetall key =>
    refine ⟨_, rfl, ?_, fun name value => ?_⟩
    · exact (NameMap.pairwise_toList _).imp compare_lt_iff_lt.1
    · rw [← h.value]
      exact mem_toList_iff
  | hget key name => exact ⟨_, rfl, fun value => h.value key name value⟩
  | keys pattern =>
    refine ⟨_, rfl, ?_, fun key => ?_⟩
    · exact (Std.ExtTreeMap.ordered_keys.imp compare_lt_iff_lt.1).filter _
    · rw [List.mem_filter, Std.ExtTreeMap.mem_keys, keyMatches_iff, h.present]
  | _ => rfl

/-- What a store says to the next request, whatever was made of it since it was empty. The request
fails exactly if the store was left unavailable or the subject of the request made to fail, and then
nothing changes; otherwise it is answered from the requests that took effect. A replaced hash has
the last values of the given fields, or is gone if there are none, and the removal that replacing
begins with is never left behind alone. No key but that of the request is touched. -/
theorem replies_after_history (database : Database) (history : History) :
    let s := (empty database).served history
    (∀ request, (∃ failure, (s.serve request).2 = .failed failure) ↔
      history.refuses request = true) ∧
    (∀ request, history.refuses request = true → (s.serve request).1 = s) ∧
    (∀ request, history.refuses request = false →
      history.Answers request (s.serve request).2) ∧
    (∀ key fields, history.blocks key = false →
      let replaced := (s.serve (.replace key fields)).1.hashes[key]?
      if fields = [] then replaced = none
      else ∃ hash, replaced = some hash ∧ ∀ name, hash[name]? = fields.value? name) ∧
    (∀ key fields, (s.serve (.replace key fields)).1 =
      let cleared := (s.serve (.del key)).1
      if fields = [] then cleared else (cleared.serve (.hset key fields)).1) ∧
    (∀ request key, request.subject? ≠ some key →
      (s.serve request).1.hashes[key]? = s.hashes[key]?) := by
  intro s
  have h : s.Reflects history := reflects_served_empty database history
  -- a request that is served never replies with a failure, so a failure means refusal
  have hreplied : ∀ request failure, s.reply request ≠ .failed failure := by
    intro request failure
    cases request <;> simp [reply]
  refine ⟨?_, ?_, ?_, ?_, ?_, ?_⟩
  · intro request
    constructor
    · rintro ⟨failure, hfailed⟩
      by_contra hserved
      rw [h.serve_of_not_refuses (by simpa using hserved)] at hfailed
      exact hreplied request failure hfailed
    · intro hrefuses
      obtain ⟨failure, hserve⟩ := h.serve_of_refuses hrefuses
      exact ⟨failure, by rw [hserve]⟩
  · intro request hrefuses
    obtain ⟨failure, hserve⟩ := h.serve_of_refuses hrefuses
    rw [hserve]
  · intro request hserved
    rw [h.serve_of_not_refuses hserved]
    exact h.answers request
  · intro key fields hblocks
    have hserved : history.refuses (.replace key fields) = false := hblocks
    rw [h.serve_of_not_refuses hserved]
    cases fields with
    | nil => simp [effect]
    | cons pair rest => exact ⟨_, by simp [effect], Fields.getElem?_toHash _⟩
  · exact fst_serve_replace s
  · intro request key hsubject
    cases hrefuses : history.refuses request with
    | true =>
      obtain ⟨failure, hserve⟩ := h.serve_of_refuses hrefuses
      rw [hserve]
    | false =>
      rw [h.serve_of_not_refuses hrefuses]
      exact getElem?_hashes_effect hsubject

end Store

end DualStack

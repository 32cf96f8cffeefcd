import DualStack.Proofs.Gating
import DualStack.Proofs.Isolation
import DualStack.Proofs.Recovery
import DualStack.Proofs.Tokens

/-!
# The entropy fields of a family are written without loss

The entropy fields of a family are configured as a text with commas and written as a JSON array.
What is written are the tokens of the text without the blanks around them, in their order and as
often as they stand there, but for those that are blank throughout. Nothing is left in such an item
that the reader would cut or trim, so the items joined with commas are a text of the same items, and
configuring that text in the first place makes no difference.
-/

set_option autoImplicit false

namespace DualStack

/-! ## Texts that list items -/

namespace Text

/-- The items of a list of tokens: what stands between the blanks of each token, unless there is
nothing. -/
inductive AreItems : List String → List String → Prop
  | nil : AreItems [] []
  | blank {token : String} {tokens items : List String} (h : IsCore token "")
    (rest : AreItems tokens items) : AreItems (token :: tokens) items
  | item {token core : String} {tokens items : List String} (h : IsCore token core)
    (hne : core ≠ "") (rest : AreItems tokens items) : AreItems (token :: tokens) (core :: items)

/-- A text lists the items of its tokens. -/
def Lists (text : String) (items : List String) : Prop :=
  ∃ tokens, IsTokens text tokens ∧ AreItems tokens items

/-- What can be an item: a text that is not cut and not trimmed. -/
structure IsItem (item : String) : Prop where
  ne_empty : item ≠ ""
  comma_notMem : ',' ∉ item.toList
  bare : IsBare item.toList

/-- The items of tokens are the trimmed tokens without the empty ones. -/
theorem areItems_iff {tokens items : List String} :
    AreItems tokens items ↔ items = (tokens.map trim).filter (· ≠ "") := by
  constructor
  · intro h
    induction h with
    | nil => rfl
    | blank hcore _ ih =>
      rw [isCore_iff] at hcore
      rw [List.map_cons, ← hcore, ih]
      rfl
    | item hcore hne _ ih =>
      rw [isCore_iff] at hcore
      rw [List.map_cons, ← hcore, List.filter_cons_of_pos (by simpa using hne), ih]
  · rintro rfl
    induction tokens with
    | nil => exact .nil
    | cons token tokens ih =>
      by_cases hcore : trim token = ""
      · rw [List.map_cons, hcore]
        exact .blank (isCore_iff.2 hcore.symm) ih
      · rw [List.map_cons, List.filter_cons_of_pos (by simpa using hcore)]
        exact .item (isCore_iff.2 rfl) hcore ih

/-- A text lists exactly the items that the reader of lists takes from it. -/
theorem lists_iff {text : String} {items : List String} :
    Lists text items ↔ items = Decode.listOf text := by
  unfold Lists Decode.listOf
  simp only [isTokens_iff, areItems_iff]
  exact ⟨fun ⟨_, htokens, hitems⟩ => htokens ▸ hitems, fun hitems => ⟨_, rfl, hitems⟩⟩

/-- Every item is the core of a token and has something in it. -/
theorem AreItems.exists_token {tokens items : List String} (h : AreItems tokens items) :
    ∀ item ∈ items, item ≠ "" ∧ ∃ token ∈ tokens, IsCore token item := by
  induction h with
  | nil => simp
  | blank _ _ ih =>
    intro item hitem
    obtain ⟨hne, token, htoken, hcore⟩ := ih item hitem
    exact ⟨hne, token, List.mem_cons_of_mem _ htoken, hcore⟩
  | item hcore hne _ ih =>
    refine List.forall_mem_cons.2 ⟨⟨hne, _, List.mem_cons_self, hcore⟩, fun item hitem => ?_⟩
    obtain ⟨hne', token, htoken, hcore'⟩ := ih item hitem
    exact ⟨hne', token, List.mem_cons_of_mem _ htoken, hcore'⟩

/-- What a text lists are items: they come from tokens without a comma and have no blanks around
them. -/
theorem isItem_of_lists {text : String} {items : List String} (h : Lists text items) :
    ∀ item ∈ items, IsItem item := by
  intro item hitem
  obtain ⟨tokens, htokens, hitems⟩ := h
  obtain ⟨hne, token, htoken, hbare, before, after, htext, -⟩ := hitems.exists_token item hitem
  refine ⟨hne, fun hcomma => htokens.comma_notMem token htoken ?_, hbare⟩
  rw [htext]
  simp [hcomma]

/-- Items that are taken for tokens are their own items. -/
theorem areItems_self {items : List String} (h : ∀ item ∈ items, IsItem item) :
    AreItems items items := by
  induction items with
  | nil => exact .nil
  | cons item items ih =>
    obtain ⟨hitem, hlater⟩ := List.forall_mem_cons.1 h
    exact .item (isCore_self hitem.bare) hitem.ne_empty (ih hlater)

/-- Items that are joined with commas are listed by the text. No items give the empty text, which
has one token that is blank throughout. -/
theorem lists_intercalate {items : List String} (h : ∀ item ∈ items, IsItem item) :
    Lists (",".intercalate items) items := by
  cases items with
  | nil =>
    have hempty : IsCore "" "" := isCore_self ⟨by simp, by simp⟩
    exact ⟨[""], ⟨by simp, by simp, rfl⟩, .blank hempty .nil⟩
  | cons item items =>
    exact ⟨item :: items, ⟨by simp, fun token htoken => (h token htoken).comma_notMem, rfl⟩,
      areItems_self h⟩

end Text

/-- The texts of a JSON array of strings. -/
def Json.texts? (s : String) : Option (List String) :=
  match parse? s with
  | some (array items) => items.mapM text?
  | _ => none

/-- The JSON text of a list is read as this list. -/
theorem Json.texts?_listText (items : List String) :
    texts? (AppRecord.listText items) = some items := by
  unfold texts?
  rw [AppRecord.parse?_listText]
  exact mapM_map_eq_some fun item _ => text?_ofString item

/-! ## The entropy fields -/

namespace Decode

variable {fields fields' : Fields}

/-- The entropy fields of an accepted family are the items that its text lists, a missing text
counting as the empty one. -/
theorem lists_entropy {config : FamilyConfig} (h : Decode.family fields = .ok config) :
    Text.Lists (fields.valueOr "entropy_fields" "") config.entropy := by
  rw [Text.lists_iff]
  unfold Decode.family at h
  obtain ⟨port, -, h⟩ := exists_of_bind_eq_ok h
  cases h
  have hempty : listOf "" = [] := by decide
  unfold Fields.valueOr
  cases fields.value? "entropy_fields" with
  | none => exact hempty.symm
  | some text => rfl

/-- Two records of a family that list the same entropy fields and are otherwise alike are read
alike. -/
theorem family_congr {items : List String}
    (hothers : ∀ name, name ≠ "entropy_fields" → fields'.value? name = fields.value? name)
    (hlists : Text.Lists (fields.valueOr "entropy_fields" "") items)
    (hlists' : Text.Lists (fields'.valueOr "entropy_fields" "") items) :
    Decode.family fields' = Decode.family fields := by
  have hentropy : ∀ record : Fields, Text.Lists (record.valueOr "entropy_fields" "") items →
      ((record.value? "entropy_fields").map listOf).getD [] = items := by
    intro record hrecord
    rw [Text.lists_iff.1 hrecord]
    unfold Fields.valueOr
    cases record.value? "entropy_fields" with
    | none => decide
    | some text => rfl
  have hport : numberOr Text.uint16? fields' "udp_port" 4791 =
      numberOr Text.uint16? fields "udp_port" 4791 := by
    unfold numberOr number?
    rw [hothers "udp_port" (by decide)]
  have hflag : flag fields' "enabled" = flag fields "enabled" := by
    unfold flag
    rw [hothers "enabled" (by decide)]
  unfold Decode.family
  rw [hport, hflag, hentropy fields hlists, hentropy fields' hlists']

end Decode

namespace Snapshot

variable {snapshot : Snapshot} {family : Family} {fields : Fields}

/-- A family whose record is read as before leaves the state as it was. -/
theorem derivedState_of_family {snapshot' : Snapshot} {fields' : Fields}
    (hothers : snapshot.SameBut .addressFamily family.name snapshot')
    (hrecord : Validation.lastRecord? snapshot.families family.name = some fields)
    (hrecord' : Validation.lastRecord? snapshot'.families family.name = some fields')
    (hread : Decode.family fields' = Decode.family fields) :
    snapshot'.derivedState = snapshot.derivedState := by
  have hconfig : Validation.configOf snapshot' = Validation.configOf snapshot := by
    refine Config.ext_entity (global_congr hothers (by decide)) (fun other => ?families)
      (fun name => getElem?_interfaces_congr hothers (by simp))
      (fun other name => getElem?_groups_congr hothers (by simp)) (rdma_congr hothers (by simp))
    case families =>
      by_cases hother : other = family
      · subst hother
        rw [get_families_configOf, get_families_configOf, hrecord, hrecord', Option.bind_some,
          Option.bind_some, hread]
      · exact get_families_congr hothers fun hplace => hother (Family.name_inj.1 hplace.2)
  exact congrArg (fun config => (Resolution.of config).state) hconfig

/-- A family that is enabled together with the feature has a record with its own port and entropy
fields. -/
theorem mem_records_of_enabled {config : FamilyConfig}
    (hrecord : Validation.lastRecord? snapshot.families family.name = some fields)
    (hvalid : Decode.family fields = .ok config)
    (henabled : fields.value? "enabled" = some "true")
    (hfeature : snapshot.derivedState.featureEnabled = true) :
    AppRecord.ofFamily family (.enabled config.port config.entropy) ∈
      snapshot.derivedState.records := by
  have hon : Resolution.featureOf (Validation.configOf snapshot) = true :=
    (Resolution.featureEnabled_of _).symm.trans hfeature
  exact (ungated_of_featureOf hon).families family fields config hrecord hvalid henabled

/-- What becomes of the entropy fields of an enabled family. The items that its text lists are
determined by the text, the field that is left out counting as an empty one; each of them has
something in it, no comma, and no blank at either end. The record of the family in the application
database has a JSON text that is read as exactly these items. Configuring the items joined with
commas, or for no items nothing at all, leads to the same state and thus to the same record. -/
theorem entropy_written_without_loss {config : FamilyConfig}
    (hrecord : Validation.lastRecord? snapshot.families family.name = some fields)
    (hvalid : Decode.family fields = .ok config)
    (henabled : fields.value? "enabled" = some "true")
    (hfeature : snapshot.derivedState.featureEnabled = true) :
    ∃ items text,
      (∀ other, Text.Lists (fields.valueOr "entropy_fields" "") other ↔ other = items) ∧
      (∀ item ∈ items, item ≠ "" ∧ ',' ∉ item.toList ∧ Text.IsBare item.toList) ∧
      Json.texts? text = some items ∧
      (∃ r ∈ snapshot.derivedState.records, r.key = AppRecord.familyKey family ∧
        r.fields.value? "entropy_fields" = some text) ∧
      (∀ channel (s : Store), s.fails (AppRecord.familyKey family) = false →
        ∃ hash : Hash, (snapshot.derivedState.apply channel s).1.hashes[
          AppRecord.familyKey family]? = some hash ∧ hash["entropy_fields"]? = some text) ∧
      ∀ snapshot' fields', snapshot.SameBut .addressFamily family.name snapshot' →
        Validation.lastRecord? snapshot'.families family.name = some fields' →
        (∀ name, name ≠ "entropy_fields" → fields'.value? name = fields.value? name) →
        (fields'.value? "entropy_fields" = some (",".intercalate items) ∨
          items = [] ∧ fields'.value? "entropy_fields" = none) →
        snapshot'.derivedState = snapshot.derivedState := by
  have hlists := Decode.lists_entropy hvalid
  have hitems := Text.isItem_of_lists hlists
  have hmem := mem_records_of_enabled hrecord hvalid henabled hfeature
  have htext : (AppRecord.ofFamily family (.enabled config.port config.entropy)).fields.value?
      "entropy_fields" = some (AppRecord.listText config.entropy) := by
    simp [AppRecord.ofFamily, Fields.value?]
  refine ⟨config.entropy, AppRecord.listText config.entropy, fun other => ?_, fun item hitem => ?_,
    Json.texts?_listText _, ⟨_, hmem, rfl, htext⟩, fun channel s hfails => ?_, ?_⟩
  · rw [Text.lists_iff.1 hlists, Text.lists_iff]
  · exact ⟨(hitems item hitem).ne_empty, (hitems item hitem).comma_notMem,
      (hitems item hitem).bare⟩
  · refine ⟨_, (DerivedState.apply_under_faults _ channel s).1 _ hmem hfails, ?_⟩
    rw [Fields.getElem?_toHash, htext]
  · intro snapshot' fields' hothers hrecord' hfields hjoined
    have hlists' : Text.Lists (fields'.valueOr "entropy_fields" "") config.entropy := by
      unfold Fields.valueOr
      rcases hjoined with hjoined | ⟨hnone, hjoined⟩
      · rw [hjoined]
        exact Text.lists_intercalate hitems
      · rw [hjoined, hnone]
        exact Text.lists_intercalate (List.forall_mem_nil Text.IsItem)
    exact derivedState_of_family hothers hrecord hrecord'
      (Decode.family_congr hfields hlists hlists')

/-- The snapshot with one address family, which is enabled with a text for its entropy fields. -/
def withEntropy (text : String) : Snapshot :=
  { empty with families := [("ipv6", [("enabled", "true"), ("entropy_fields", text)])] }

/-- An item with quotation marks, one that stands there twice and two without anything in them, with
different blanks around them, are three texts in the array; joining these gives the same state. -/
theorem entropy_written_without_blanks :
    (∃ text, Json.texts? text = some ["src_port", "\"label\"", "src_port"] ∧
      ∃ r ∈ (withEntropy "src_port ,, \"label\"\t,\n ,\u00a0src_port").derivedState.records,
        r.key = "UE_IPV6_CONFIG" ∧ r.fields.value? "entropy_fields" = some text) ∧
    (withEntropy "src_port,\"label\",src_port").derivedState =
      (withEntropy "src_port ,, \"label\"\t,\n ,\u00a0src_port").derivedState := by
  have hrecord : ∀ text, Validation.lastRecord? (withEntropy text).families Family.ipv6.name =
      some [("enabled", "true"), ("entropy_fields", text)] := fun _ => rfl
  have hvalid : ∀ text, Decode.family [("enabled", "true"), ("entropy_fields", text)] =
      .ok ⟨true, 4791, Decode.listOf text⟩ := fun _ => rfl
  have hfeature : ∀ text, (withEntropy text).derivedState.featureEnabled = true := fun _ => rfl
  have hlisted : Text.Lists "src_port ,, \"label\"\t,\n ,\u00a0src_port"
      ["src_port", "\"label\"", "src_port"] := Text.lists_iff.2 (by decide +kernel)
  obtain ⟨items, text, hitems, -, hread, hwritten, -, hsame⟩ :=
    entropy_written_without_loss (hrecord "src_port ,, \"label\"\t,\n ,\u00a0src_port")
      (hvalid _) rfl (hfeature _)
  obtain rfl := (hitems _).1 hlisted
  refine ⟨⟨text, hread, hwritten⟩, hsame _ _ (fun other key hplace => ?_) (hrecord _)
    (fun name hname => ?_) (.inl rfl)⟩
  · cases other with
    | addressFamily =>
      have hkey : key ≠ "ipv6" := fun hkey => hplace ⟨rfl, hkey⟩
      simp [withEntropy, table, Validation.lastRecord?, hkey.symm]
    | global | interface | ecmp | rdma => rfl
  · simp [Fields.value?, hname.symm]

end Snapshot

end DualStack

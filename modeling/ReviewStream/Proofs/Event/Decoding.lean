import ReviewStream.Proofs.Event.Project

/-!
# What decoding gives

Decoding sorts all values: what is no object, an object without a type, an object whose type is not
modelled, and an object of a modelled type, which alone can have bad data.  An event that comes out
tells what its object has: the type, the creation time, the project and who did it.

* `createdOn?_eq_some_iff`: the creation time is the integer under its key, in 64 bits.
* `Event.Tells`: what an event tells of its object.
* `EventKind.ReadAs.accountAt?_roleKey`: the account of an action is the one under the action's own
  role.
* **`Event.ofJson?_outcome`**: the outcome of decoding for every value.
-/

namespace ReviewStream

open Json (Shape Fields Fault)

variable {v : Json} {type : String} {kind : EventKind} {provider : Option Provider}
  {members inner : List (String × Json)}

/-! ## Creation time -/

lemma Json.int?_eq_some_iff {i : Int} : v.int? = some i ↔ v = .int i := by
  cases v with
  | number n => cases n <;> simp [Json.int?, Json.int]
  | _ => simp [Json.int?, Json.int]

/-- **The creation time is the integer under its key, in the range of 64 bits.** -/
theorem createdOn?_eq_some_iff {t : Int64} :
    createdOn? v = some t ↔ v.get? "eventCreatedOn" = some (.int t.toInt) := by
  rw [createdOn?]
  split
  next i hint =>
    obtain ⟨w, hget, hw⟩ := Option.bind_eq_some_iff.mp hint
    rw [hget, Json.int?_eq_some_iff.mp hw]
    constructor
    · intro h
      split_ifs at h with hrange
      have hlow : Int64.minValue.toInt = -2 ^ 63 := rfl
      have hhigh : Int64.maxValue.toInt = 2 ^ 63 - 1 := rfl
      have hsame : (Int64.ofInt i).toInt = i := by
        refine Int64.toInt_ofInt_of_le ?_ ?_ <;> omega
      cases h
      rw [hsame]
    · intro h
      cases h
      rw [if_pos ⟨t.minValue_le_toInt, t.toInt_le⟩, Int64.ofInt_toInt]
  next hint =>
    refine ⟨nofun, fun hget => ?_⟩
    rw [hget] at hint
    cases hint

/-! ## Accounts -/

/-- The account that a value has under a key, none if there is nothing or null. -/
def Json.accountAt? (key : String) (v : Json) : Except Fault (Option Account) :=
  (v.get? key).elim (.ok none) Account.shape.nullable

/-- The account with the texts that a value has under the keys of an account. -/
def Account.ofTexts (v : Json) : Account :=
  { name := v.textAt? "name", email := v.textAt? "email", username := v.textAt? "username" }

/-- An account that is written as an object has the texts of the object. -/
lemma Account.eq_ofTexts_of_shape {a : Account} (h : Account.shape (.object inner) = .ok a) :
    a = Account.ofTexts (.object inner) := by
  refine Shape.of_record (P := fun a => a = Account.ofTexts (.object inner)) h ?_
  rw [Account.fields]
  iterate 2 refine Fields.ofMembers_seq ?_
  refine Fields.ofMembers_map fun name hname email hemail username husername => ?_
  rw [Account.ofTexts, Fields.textAt?_of_optionalText hname,
    Fields.textAt?_of_optionalText hemail, Fields.textAt?_of_optionalText husername]

lemma Json.eq_ofTexts_of_accountAt? {key : String} {a : Option Account}
    (h : v.accountAt? key = .ok a) (hobject : v.get? key = some (.object inner)) :
    a = some (Account.ofTexts (.object inner)) := by
  rw [Json.accountAt?, hobject] at h
  obtain ⟨read, hread, rfl⟩ := exists_of_map_eq_ok (f := some) (b := a) h
  rw [Account.eq_ofTexts_of_shape hread]

lemma Json.Fields.ofMembers_account (key : String) :
    (Fields.account key).ofMembers members = (Json.object members).accountAt? key :=
  Fields.ofMembers_optional

/-- Each role of a record is read under a key of its own. -/
lemma ChangeRecord.accountAt?_roleKey {r : ChangeRecord}
    (h : ChangeRecord.shape (.object members) = .ok r) (action : ChangeAction) :
    (Json.object members).accountAt? action.roleKey = .ok (r.actor action) := by
  refine Shape.of_record
    (P := fun r => (Json.object members).accountAt? action.roleKey = .ok (r.actor action)) h ?_
  rw [ChangeRecord.fields]
  iterate 19 refine Fields.ofMembers_seq ?_
  refine Fields.ofMembers_map fun change _ patchSet _ uploader huploader submitter hsubmitter
    abandoner habandoner restorer hrestorer deleter hdeleter changer hchanger => ?_
  intros
  rw [← Fields.ofMembers_account]
  cases action with
  | patchsetCreated => exact huploader
  | merged => exact hsubmitter
  | abandoned => exact habandoner
  | restored => exact hrestorer
  | deleted => exact hdeleter
  | privateStateChanged => exact hchanger
  | wipStateChanged => exact hchanger

/-- The account of an action is the one under the action's own role. -/
lemma EventKind.ReadAs.accountAt?_roleKey {action : ChangeAction} {e : ChangeEvent}
    (h : EventKind.ReadAs (.object members) type (.changed action e)) :
    (Json.object members).accountAt? action.roleKey = .ok e.account := by
  generalize hkind : EventKind.changed action e = kind at h
  cases h with
  | aboutChange hmake hread =>
      rw [hmake.account _ action e hkind.symm]
      exact ChangeRecord.accountAt?_roleKey hread action
  | _ => cases hkind

/-! ## Outcomes -/

/-- What an event tells of the object that it is decoded from, whose type is `type`. -/
structure Event.Tells (e : Event) (provider : Option Provider) (type : String) (v : Json) :
    Prop where
  provider_eq : e.provider = provider
  typeName_eq : e.typeName = type
  tag_eq : type ∈ EventKind.modelled → e.kind.toRecord.get? "type" = some (.text type)
  /-- Numbers out of range and other values are no time. -/
  createdOn_iff : ∀ t, e.createdOn = some t ↔ v.get? "eventCreatedOn" = some (.int t.toInt)
  project_of_modelled : type ∈ EventKind.modelled → ∀ inner,
    v.at? e.kind.projectPath.dropLast = some (.object inner) →
      ∃ name, e.project? = some name ∧ v.at? e.kind.projectPath = some (.text name)
  /-- A payload may also have its project as an object with a name. -/
  project_of_other : type ∉ EventKind.modelled →
    e.project? = (v.textAt? "project").or ((v.get? "project").bind (Json.textAt? "name"))
  account_eq : ∀ action c, e.kind = .changed action c →
    v.accountAt? action.roleKey = .ok c.account
  account_of_object : ∀ action c inner, e.kind = .changed action c →
    v.get? action.roleKey = some (.object inner) →
      c.account = some (Account.ofTexts (.object inner))

lemma payloadProject?_eq :
    payloadProject? v
      = (v.textAt? "project").or ((v.get? "project").bind (Json.textAt? "name")) := by
  rw [payloadProject?, Json.textAt?]
  cases v.get? "project" <;> rfl

/-- Nothing but bad data is in the way of an object with a type. -/
lemma Event.ofJson?_ok_or_data (provider : Option Provider)
    (h : v.get? "type" = some (.text type)) :
    (∃ e, Event.ofJson? provider v = .ok e ∧ EventKind.ofJson? type v = .ok e.kind) ∨
      ∃ fault, Event.ofJson? provider v = .error (.data fault) := by
  rw [Event.ofJson?_of_type h]
  rcases EventKind.ofJson?_eq_ok_or_data type v with ⟨kind, hkind⟩ | ⟨fault, hfault⟩
  · rw [hkind]
    exact .inl ⟨_, rfl, rfl⟩
  · rw [hfault]
    exact .inr ⟨fault, rfl⟩

lemma Event.eq_data_of_type {fault : DecodeError} (htype : v.get? "type" = some (.text type))
    (h : Event.ofJson? provider v = .error fault) : ∃ cause, fault = .data cause := by
  rcases Event.ofJson?_ok_or_data provider htype with ⟨e, he, -⟩ | ⟨cause, hcause⟩
  · rw [he] at h
    cases h
  · rw [hcause] at h
    exact ⟨cause, (Except.error.inj h).symm⟩

lemma Event.ofJson?_eq_notAnObject_iff :
    Event.ofJson? provider v = .error .notAnObject ↔ ∀ members, v ≠ .object members := by
  refine ⟨fun h members hv => ?_, Event.ofJson?_of_not_object⟩
  by_cases htype : ∃ type, v.get? "type" = some (.text type)
  · obtain ⟨type, htype⟩ := htype
    obtain ⟨cause, hcause⟩ := Event.eq_data_of_type htype h
    cases hcause
  · rw [Event.ofJson?_of_no_type hv fun type heq => htype ⟨type, heq⟩] at h
    cases h

lemma Event.ofJson?_eq_missingType_iff :
    Event.ofJson? provider v = .error .missingType ↔
      (∃ members, v = .object members) ∧ ∀ type, v.get? "type" ≠ some (.text type) := by
  constructor
  · intro h
    refine ⟨?_, fun type htype => ?_⟩
    · by_cases hobject : ∃ members, v = .object members
      · exact hobject
      · rw [Event.ofJson?_of_not_object fun members hv => hobject ⟨members, hv⟩] at h
        cases h
    · obtain ⟨cause, hcause⟩ := Event.eq_data_of_type htype h
      cases hcause
  · rintro ⟨⟨members, hv⟩, htype⟩
    exact Event.ofJson?_of_no_type hv htype

/-- Whatever is decoded tells what its object has. -/
lemma Event.tells_of_ofJson? {e : Event} (h : Event.ofJson? provider v = .ok e) :
    ∃ type, v.get? "type" = some (.text type) ∧ e.Tells provider type v := by
  obtain ⟨type, hget, hkind, hprovider, hcreated⟩ := Event.exists_type_of_ofJson? h
  obtain ⟨members, rfl, -⟩ := Json.exists_members_of_get? hget
  have hcreatedOn : ∀ t, e.createdOn = some t ↔
      (Json.object members).get? "eventCreatedOn" = some (.int t.toInt) := fun t => by
    rw [hcreated, createdOn?_eq_some_iff]
  refine ⟨type, hget, ?_⟩
  by_cases htype : type ∈ EventKind.modelled
  · have hread := EventKind.readAs_of_ofJson? htype hkind
    have haccount : ∀ action c, e.kind = .changed action c →
        (Json.object members).accountAt? action.roleKey = .ok c.account := by
      intro action c hchanged
      rw [hchanged] at hread
      exact hread.accountAt?_roleKey
    exact
      { provider_eq := hprovider
        typeName_eq := hread.typeName_eq
        tag_eq := fun _ => congrArg (fun tag => some (Json.text tag)) hread.tag_eq
        createdOn_iff := hcreatedOn
        project_of_modelled := fun _ _ hinner => hread.project hinner
        project_of_other := fun hother => absurd htype hother
        account_eq := haccount
        account_of_object := fun action c _ hchanged hobject =>
          Json.eq_ofTexts_of_accountAt? (haccount action c hchanged) hobject }
  · rw [EventKind.ofJson?_of_not_mem_modelled htype] at hkind
    have hother : e.kind = .other type (.object members) := (Except.ok.inj hkind).symm
    have hnever : ∀ action c, e.kind ≠ .changed action c := fun action c hchanged => by
      rw [hother] at hchanged
      cases hchanged
    exact
      { provider_eq := hprovider
        typeName_eq := by rw [Event.typeName, hother, EventKind.typeName]
        tag_eq := fun hmodelled => absurd hmodelled htype
        createdOn_iff := hcreatedOn
        project_of_modelled := fun hmodelled => absurd hmodelled htype
        project_of_other := fun _ => by
          rw [Event.project?, hother, EventKind.project?, payloadProject?_eq]
        account_eq := fun action c hchanged => absurd hchanged (hnever action c)
        account_of_object := fun action c _ hchanged => absurd hchanged (hnever action c) }

/-- **The outcome of decoding, for every value.**  What is no object and what has no type are told
apart from everything else; a type that is not modelled is never in the way; and whatever is
decoded tells what its object has. -/
theorem Event.ofJson?_outcome (provider : Option Provider) (v : Json) :
    (Event.ofJson? provider v = .error .notAnObject ↔ ∀ members, v ≠ .object members) ∧
    (Event.ofJson? provider v = .error .missingType ↔
      (∃ members, v = .object members) ∧ ∀ type, v.get? "type" ≠ some (.text type)) ∧
    (∀ type, v.get? "type" = some (.text type) → type ∉ EventKind.modelled →
      ∃ e, Event.ofJson? provider v = .ok e ∧ e.kind = .other type v) ∧
    (∀ type, v.get? "type" = some (.text type) → type ∈ EventKind.modelled →
      (∃ e, Event.ofJson? provider v = .ok e ∧ e.kind.IsModelled ∧ e.kind.tag = type) ∨
        ∃ fault, Event.ofJson? provider v = .error (.data fault)) ∧
    ∀ e, Event.ofJson? provider v = .ok e →
      ∃ type, v.get? "type" = some (.text type) ∧ e.Tells provider type v := by
  refine ⟨Event.ofJson?_eq_notAnObject_iff, Event.ofJson?_eq_missingType_iff,
    fun type hget htype => ?_, fun type hget htype => ?_, fun e => Event.tells_of_ofJson?⟩
  · have hother := EventKind.ofJson?_of_not_mem_modelled htype v
    rw [Event.ofJson?_of_type hget, hother]
    exact ⟨_, rfl, rfl⟩
  · rcases Event.ofJson?_ok_or_data provider hget with ⟨e, he, hkind⟩ | hfault
    · have hread := EventKind.readAs_of_ofJson? htype hkind
      exact .inl ⟨e, he, hread.isModelled, hread.tag_eq⟩
    · exact .inr hfault

/-- A change that one account abandons and another one has submitted; next to it a list, an object
whose type is no text, and an object of a type that is not modelled. -/
theorem Event.ofJson?_outcome_of_abandoned_change :
    let account (name : String) : Json := .object [("name", .text name)]
    let v : Json := .object
      [("abandoner", account "Ann"),
        ("change", .object [("branch", .text "main"), ("project", .text "tools")]),
        ("eventCreatedOn", .int 1700000000), ("submitter", account "Sam"),
        ("type", .text "change-abandoned")]
    let other : Json := .object [("eventCreatedOn", .text "now"), ("type", .text "mirror-done")]
    ∃ e c e', Event.ofJson? none v = .ok e ∧ e.Tells none "change-abandoned" v
      ∧ e.kind = .changed .abandoned c ∧ c.account = some ⟨some "Ann", none, none⟩
      ∧ e.project? = some "tools" ∧ e.createdOn = some 1700000000
      ∧ Event.ofJson? none other = .ok e' ∧ e'.kind = .other "mirror-done" other
      ∧ Event.ofJson? none (.list [other]) = .error .notAnObject
      ∧ Event.ofJson? none (.object [("change", .null), ("type", .null)])
        = .error .missingType := by
  intro account v other
  let c : ChangeEvent :=
    { change :=
        { project := "tools", branch := "main", id := "", number := 0, subject := "",
          owner := none, url := none, topic := none, status := none },
      patchSet := none, account := some ⟨some "Ann", none, none⟩ }
  let e : Event := ⟨none, some 1700000000, .changed .abandoned c⟩
  have he : Event.ofJson? none v = .ok e := rfl
  obtain ⟨type, htype, htells⟩ := (Event.ofJson?_outcome none v).2.2.2.2 e he
  cases htype
  obtain ⟨name, hname, hat⟩ := htells.project_of_modelled (by decide) _ rfl
  cases hat
  obtain ⟨e', he', hkind⟩ :=
    (Event.ofJson?_outcome none other).2.2.1 "mirror-done" rfl (by decide)
  exact ⟨e, c, e', he, htells, rfl, htells.account_of_object .abandoned c _ rfl rfl, hname,
    (htells.createdOn_iff _).mpr rfl, he', hkind, (Event.ofJson?_outcome none _).1.mpr nofun,
    (Event.ofJson?_outcome none _).2.1.mpr ⟨⟨_, rfl⟩, nofun⟩⟩

/-- **A payload may have its project as an object.**  There is no text at the key of the project,
but the event has the name inside the object as its project. -/
theorem Event.project?_of_named_object :
    let v : Json := .object
      [("project", .object [("name", .text "tools")]), ("type", .text "mirror-done")]
    ∃ e, Event.ofJson? none v = .ok e ∧ e.project? = some "tools"
      ∧ e.kind.projectPath = ["project"] ∧ v.textAt? "project" = none :=
  ⟨_, rfl, rfl, rfl, rfl⟩

end ReviewStream

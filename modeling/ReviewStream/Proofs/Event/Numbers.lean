import ReviewStream.Proofs.Event.Kinds
import ReviewStream.Proofs.Json.Slot
import ReviewStream.Proofs.Text.Numerals

/-!
# Numbers in two forms

The numbers of a change and of a patch set, and the value of a vote, come as numbers or as texts.
Which of the two forms is sent makes no difference to what an event is decoded as.

* `Json.WritesNumber`, `Json.WritesVote`: the forms of a number and of the value of a vote.
* `EventKind.aboutChange`: the types whose events are about a change.
* `Event.HingesOn`: an event is decoded alike from all forms of a datum, keeps the datum as it is,
  and is bad data if there is anything else in its place.
* `Change.hinges_number` and the like: what a record makes of the value of one of its fields.
* **`Event.hingesOn_numbers`**: every event about a change hinges on the number of the change, on
  the number of the patch set and on the value of every vote.
-/

namespace ReviewStream

open Json (Shape Fields Fault Slot Hinges)

variable {β : Type} {v : Json} {n : UInt64} {s : String} {type : String}
  {provider : Option Provider}

/-! ## The two forms -/

/-- The forms of a number of 64 bits: the integer, and a text with a numeral among blanks. -/
inductive Json.WritesNumber (n : UInt64) : Json → Prop where
  | integer : WritesNumber n (.nat n.toNat)
  | text {s : String} {front numeral back : List Char} (hs : s.toList = front ++ numeral ++ back)
      (hfront : ∀ c ∈ front, Text.isBlank c) (hback : ∀ c ∈ back, Text.isBlank c)
      (hnumeral : Text.IsNumeral n.toNat numeral) : WritesNumber n (.text s)

/-- The forms of the value of a vote: any text, and an integer of 64 bits, which stands for its
decimal text. -/
inductive Json.WritesVote : String → Json → Prop where
  | text (s : String) : WritesVote s (.text s)
  | integer {i : Int} (hmin : Int64.minValue.toInt ≤ i) (hmax : i ≤ Int64.maxValue.toInt) :
      WritesVote (toString i) (.int i)

lemma Json.writesNumber_text_iff :
    Json.WritesNumber n (.text s) ↔ Text.IsNumeral n.toNat (Text.trim s.toList) := by
  rw [Text.isNumeral_trim_iff]
  constructor
  · rintro ⟨⟩
    exact ⟨_, _, _, ‹_›, ‹_›, ‹_›, ‹_›⟩
  · rintro ⟨front, numeral, back, hs, hfront, hback, hnumeral⟩
    exact .text hs hfront hback hnumeral

/-- A number is read from its forms and from nothing else. -/
lemma Json.Shape.numberOrText_eq_ok_iff : Shape.numberOrText v = .ok n ↔ v.WritesNumber n := by
  have hlt : n.toNat < UInt64.size := n.toNat_lt_size
  cases v with
  | number number =>
      cases number with
      | integer i =>
          rw [Shape.numberOrText]
          split_ifs with hrange
          · have hi : (i.toNat : Int) = i := Int.toNat_of_nonneg hrange.1
            have hsize : i.toNat < UInt64.size := by omega
            constructor
            · rintro ⟨⟩
              have hform := Json.WritesNumber.integer (n := UInt64.ofNat i.toNat)
              rwa [UInt64.toNat_ofNat_of_lt' hsize, Json.nat, hi] at hform
            · rintro ⟨⟩
              rw [Int.toNat_natCast, UInt64.ofNat_toNat]
          · refine iff_of_false nofun ?_
            rintro ⟨⟩
            omega
      | real x => exact iff_of_false nofun nofun
  | text s =>
      have hread (m : Nat) : Text.readUnsigned (UInt64.size - 1) (Text.trim s.toList) = .ok m
          ↔ Text.IsNumeral m (Text.trim s.toList) ∧ m ≤ UInt64.size - 1 :=
        Text.readUnsigned_eq_ok_iff
      rw [Json.writesNumber_text_iff, Shape.numberOrText]
      cases hm : Text.readUnsigned (UInt64.size - 1) (Text.trim s.toList) with
      | error e =>
          refine iff_of_false nofun fun hnumeral => ?_
          have hok := (hread n.toNat).mpr ⟨hnumeral, by omega⟩
          rw [hm] at hok
          cases hok
      | ok m =>
          obtain ⟨hnumeral, hle⟩ := (hread m).mp hm
          have hsize : m < UInt64.size := by omega
          constructor
          · rintro ⟨⟩
            rwa [UInt64.toNat_ofNat_of_lt' hsize]
          · intro hn
            have hok := (hread n.toNat).mpr ⟨hn, by omega⟩
            rw [hm] at hok
            cases hok
            exact congrArg Except.ok UInt64.ofNat_toNat
  | _ => exact iff_of_false nofun nofun

/-- The value of a vote is read from its forms and from nothing else. -/
lemma Json.Shape.textOrNumber_eq_ok_iff : Shape.textOrNumber v = .ok s ↔ v.WritesVote s := by
  cases v with
  | number number =>
      cases number with
      | integer i =>
          rw [Shape.textOrNumber, Text.intText_eq_toString]
          split_ifs with hrange
          · constructor
            · rintro ⟨⟩
              exact .integer hrange.1 hrange.2
            · rintro ⟨⟩
              rfl
          · refine iff_of_false nofun ?_
            rintro ⟨⟩
            exact hrange ⟨‹_›, ‹_›⟩
      | real x => exact iff_of_false nofun nofun
  | text t =>
      constructor
      · rintro ⟨⟩
        exact .text s
      · rintro ⟨⟩
        rfl
  | _ => exact iff_of_false nofun nofun

/-! ## Records -/

lemma Change.hinges_number (slot : Slot "number" 3) :
    Hinges Shape.numberOrText (fun make => ∀ n, (make n).number = n)
      fun v => Change.shape (slot.fill v) := by
  refine Fields.Has.hinges ?_ "Change" slot
  iterate 5 refine .seq ?_ (Fields.lacks_field (by decide) _ _)
  refine .last ?_ ?_ rfl
  · iterate 2 refine .seq ?_ (Fields.lacks_field (by decide) _ _)
    exact .map _ (Fields.lacks_field (by decide) _ _)
  · iterate 2 refine .seq ?_ _
    exact .map (fun _ _ _ _ _ _ _ _ _ => rfl) _

lemma PatchSet.hinges_number (slot : Slot "number" 0) :
    Hinges Shape.numberOrText (fun make => ∀ n, (make n).number = n)
      fun v => PatchSet.shape (slot.fill v) := by
  refine Fields.Has.hinges ?_ "PatchSet" slot
  iterate 4 refine .seq ?_ (Fields.lacks_field (by decide) _ _)
  exact .only fun _ _ _ _ _ => rfl

lemma Approval.hinges_value (slot : Slot "value" 1) :
    Hinges Shape.textOrNumber (fun make => ∀ s, (make s).value = s)
      fun v => Approval.shape (slot.fill v) := by
  refine Fields.Has.hinges ?_ "Approval" slot
  iterate 2 refine .seq ?_ (Fields.lacks_field (by decide) _ _)
  refine .last ?_ ?_ rfl
  · exact .map _ (Fields.lacks_field (by decide) _ _)
  · exact .map (fun _ _ _ _ => rfl) _

namespace ChangeRecord

lemma hinges_change (slot : Slot "change" 0) :
    Hinges Change.shape (fun make => ∀ c, (make c).change = c)
      fun v => ChangeRecord.shape (slot.fill v) := by
  refine Fields.Has.hinges ?_ "ChangeRecord" slot
  iterate 19 refine .seq ?_ (Fields.lacks_field (by decide) _ _)
  exact .only fun _ _ _ _ _ _ _ _ _ _ _ _ _ _ _ _ _ _ _ _ => rfl

lemma hinges_patchSet (slot : Slot "patchSet" 1) :
    Hinges PatchSet.shape.nullable (fun make => ∀ p, (make p).patchSet = p)
      fun v => ChangeRecord.shape (slot.fill v) := by
  refine Fields.Has.hinges ?_ "ChangeRecord" slot
  iterate 18 refine .seq ?_ (Fields.lacks_field (by decide) _ _)
  refine .last ?_ ?_ rfl
  · exact .map _ (Fields.lacks_field (by decide) _ _)
  · exact .map (fun _ => by intros; rfl) _

lemma hinges_approvals (slot : Slot "approvals" 14) :
    Hinges Approval.shape.items (fun make => ∀ as, (make as).approvals = as)
      fun v => ChangeRecord.shape (slot.fill v) := by
  refine Fields.Has.hinges ?_ "ChangeRecord" slot
  iterate 5 refine .seq ?_ (Fields.lacks_field (by decide) _ _)
  refine .last ?_ ?_ rfl
  · iterate 13 refine .seq ?_ (Fields.lacks_field (by decide) _ _)
    exact .map _ (Fields.lacks_field (by decide) _ _)
  · iterate 13 refine .seq ?_ _
    exact .map (fun _ => by intros; rfl) _

/-! ### Inside the fields -/

lemma hinges_changeNumber (change : Slot "change" 0) (number : Slot "number" 3) :
    Hinges Shape.numberOrText (fun make => ∀ n, ∃ c, (make n).change = c ∧ c.number = n)
      fun v => ChangeRecord.shape (change.fill (number.fill v)) :=
  (hinges_change change).comp (Change.hinges_number number)
    fun _ g hf hg n => ⟨g n, hf (g n), hg n⟩

lemma hinges_patchSetNumber (patchSet : Slot "patchSet" 1) (number : Slot "number" 0) :
    Hinges Shape.numberOrText (fun make => ∀ n, ∃ p, (make n).patchSet = some p ∧ p.number = n)
      fun v => ChangeRecord.shape (patchSet.fill (number.fill v)) := by
  have hinner : Hinges Shape.numberOrText (fun make => ∀ n, ∃ p, make n = some p ∧ p.number = n)
      fun v => PatchSet.shape.nullable (number.fill v) :=
    (PatchSet.hinges_number number).nullable number.fill_ne_null
      fun make hmake n => ⟨make n, rfl, hmake n⟩
  refine (hinges_patchSet patchSet).comp hinner fun f g hf hg n => ?_
  rw [hf]
  exact hg n

lemma hinges_voteValue (approvals : Slot "approvals" 14) (before after : List Json)
    (value : Slot "value" 1) :
    Hinges Shape.textOrNumber
      (fun make => ∀ s, ∃ vote, (make s).approvals[before.length]? = some vote ∧ vote.value = s)
      fun v => ChangeRecord.shape (approvals.fill (.list (before ++ value.fill v :: after))) := by
  have hinner : Hinges Shape.textOrNumber
      (fun make => ∀ s, ∃ vote, (make s)[before.length]? = some vote ∧ vote.value = s)
      fun v => Approval.shape.items (.list (before ++ value.fill v :: after)) := by
    refine (Approval.hinges_value value).items before after
      fun make front back hmake hlength s => ⟨make s, ?_, hmake s⟩
    rw [← hlength, List.getElem?_append_right (Nat.le_refl _), Nat.sub_self]
    rfl
  refine (hinges_approvals approvals).comp hinner fun f g hf hg s => ?_
  rw [hf]
  exact hg s

end ChangeRecord

/-! ## Kinds about a change -/

/-- The names of the types that have a record, but for the three whose events are not about a
change. -/
def EventKind.aboutChange : List String :=
  EventKind.modelled.filter (· ∉ ["ref-updated", "ref-replicated", "project-created"])

lemma EventKind.aboutChange_eq : EventKind.aboutChange
    = ChangeAction.all.map ChangeAction.typeName
      ++ ["comment-added", "reviewer-added", "topic-changed", "hashtags-changed", "vote-deleted",
        "merge-failed"] := by decide

/-- The change that a kind is about. -/
def EventKind.change? : EventKind → Option Change
  | .changed _ e => some e.change
  | .commentAdded e => some e.change
  | .reviewerAdded e => some e.change
  | .topicChanged e => some e.change
  | .hashtagsChanged e => some e.change
  | .voteDeleted e => some e.change
  | .mergeFailed e => some e.change
  | .refUpdated _ | .projectCreated _ | .refReplicated _ | .other .. => none

/-- What a kind has in its place for a patch set, if it has that place. -/
def EventKind.patchSet? : EventKind → Option (Option PatchSet)
  | .changed _ e => some e.patchSet
  | .commentAdded e => some e.patchSet
  | .reviewerAdded e => some e.patchSet
  | .voteDeleted e => some e.patchSet
  | .mergeFailed e => some e.patchSet
  | .topicChanged _ | .hashtagsChanged _ | .refUpdated _ | .projectCreated _ | .refReplicated _
  | .other .. => none

/-- The votes of a kind that has a place for them. -/
def EventKind.approvals? : EventKind → Option (List Approval)
  | .commentAdded e => some e.approvals
  | .voteDeleted e => some e.approvals
  | .changed .. | .reviewerAdded _ | .topicChanged _ | .hashtagsChanged _ | .mergeFailed _
  | .refUpdated _ | .projectCreated _ | .refReplicated _ | .other .. => none

/-- A kind that is made of the record of a change has the change of the record, and its patch set
and its votes where it has a place for them. -/
structure ChangeRecord.Fills (make : ChangeRecord → EventKind) : Prop where
  change : ∀ r, (make r).change? = some r.change
  patchSet : ∀ r p, (make r).patchSet? = some p → p = r.patchSet
  approvals : ∀ r as, (make r).approvals? = some as → as = r.approvals

lemma EventKind.exists_fills (habout : type ∈ EventKind.aboutChange) :
    ∃ make, ChangeRecord.Fills make
      ∧ ∀ v, EventKind.ofJson? type v = ((ChangeRecord.shape v).map make).mapError .data := by
  rw [EventKind.aboutChange_eq] at habout
  rcases List.mem_append.mp habout with haction | hother
  · obtain ⟨action, -, rfl⟩ := List.mem_map.mp haction
    have hdecode : ∀ v, EventKind.ofJson? action.typeName v
        = (action.shape v).mapError .data := by
      cases action <;> exact fun v => rfl
    refine ⟨_, ⟨fun r => rfl, ?_, ?_⟩, hdecode⟩ <;> rintro r _ ⟨⟩
    rfl
  · simp only [List.mem_cons, List.not_mem_nil, or_false] at hother
    rcases hother with rfl | rfl | rfl | rfl | rfl | rfl
    all_goals
      refine ⟨_, ⟨fun r => rfl, ?_, ?_⟩, fun v => rfl⟩ <;> rintro r _ hplace <;> cases hplace
        <;> rfl

/-! ## Events -/

/-- Events are decoded alike from all forms of a datum at a place, and keep the datum as it is.
Anything else at that place is bad data. -/
structure Event.HingesOn (provider : Option Provider) (place : Json → Json)
    (Writes : β → Json → Prop) (Keeps : Event → β → Prop) : Prop where
  /-- Nothing but the datum has to do with the form; whether the event is decoded has not even to do
  with the datum. -/
  forms : ∃ outcome : Except DecodeError (β → Event),
    (∀ b v, Writes b v →
      Event.ofJson? provider (place v) = outcome.map fun event => event b)
      ∧ ∀ event, outcome = .ok event → ∀ b, Keeps (event b) b
  bad : ∀ v, (∀ b, ¬ Writes b v) →
    ∃ fault, Event.ofJson? provider (place v) = .error (.data fault)

lemma Event.hingesOn_of_hinges {key : String} {i : Nat} {inside : Json → Json} {shape : Shape β}
    {P : (β → ChangeRecord) → Prop} {Writes : β → Json → Prop} {Keeps : Event → β → Prop}
    (habout : type ∈ EventKind.aboutChange) (slot : Slot key i) (hkey : key ≠ "eventCreatedOn")
    (htype : ∀ v, (slot.fill v).get? "type" = some (.text type))
    (hshape : ∀ v b, shape v = .ok b ↔ Writes b v)
    (hhinges : Hinges shape P fun v => ChangeRecord.shape (slot.fill (inside v)))
    (hkeeps : ∀ record, P record → ∀ kind, ChangeRecord.Fills kind → ∀ createdOn b,
      Keeps { provider := provider, createdOn := createdOn, kind := kind (record b) } b) :
    Event.HingesOn provider (fun v => slot.fill (inside v)) Writes Keeps := by
  obtain ⟨kind, hfills, hkind⟩ := EventKind.exists_fills habout
  obtain ⟨⟨blame, make⟩, hclose, hmake⟩ := hhinges
  have hread (v : Json) : ChangeRecord.shape (slot.fill (inside v)) = _ := hclose v
  have hcreated (v : Json) : createdOn? (slot.fill v) = createdOn? (slot.fill .null) := by
    rw [createdOn?, createdOn?, slot.get?_fill hkey v .null]
  have hdecode (v : Json) : Event.ofJson? provider (slot.fill (inside v))
      = (((ChangeRecord.shape (slot.fill (inside v))).map kind).mapError .data).map fun kind =>
        { provider := provider, createdOn := createdOn? (slot.fill .null), kind := kind } := by
    rw [Event.ofJson?_of_type (htype _), hkind, hcreated]
  constructor
  · refine ⟨(make.mapError .data).map fun record b =>
      { provider := provider, createdOn := createdOn? (slot.fill .null), kind := kind (record b) },
      fun b v hwrites => ?_, ?_⟩
    · rw [hdecode, hread, (hshape v b).mpr hwrites]
      cases make <;> rfl
    · rintro _ hevent b
      cases make with
      | error e => cases hevent
      | ok record =>
          cases hevent
          exact hkeeps record (hmake record rfl) kind hfills _ b
  · intro v hnone
    rw [hdecode, hread]
    cases hv : shape v with
    | error e => exact ⟨blame e, rfl⟩
    | ok b => exact absurd ((hshape v b).mp hv) (hnone b)

/-- **Which form is sent makes no difference.**  An event about a change hinges on the number of its
change and on that of its patch set, each of which is written as an integer or as a numeral among
blanks, and on the value of each of its votes, which is a text or stands for one. -/
theorem Event.hingesOn_numbers (provider : Option Provider)
    (habout : type ∈ EventKind.aboutChange) :
    (∀ (change : Slot "change" 0) (number : Slot "number" 3),
        (∀ v, (change.fill v).get? "type" = some (.text type)) →
          Event.HingesOn provider (fun v => change.fill (number.fill v)) Json.WritesNumber
            fun e n => ∃ c, e.kind.change? = some c ∧ c.number = n)
      ∧ (∀ (patchSet : Slot "patchSet" 1) (number : Slot "number" 0),
        (∀ v, (patchSet.fill v).get? "type" = some (.text type)) →
          Event.HingesOn provider (fun v => patchSet.fill (number.fill v)) Json.WritesNumber
            fun e n => ∀ p?, e.kind.patchSet? = some p? → ∃ p, p? = some p ∧ p.number = n)
      ∧ ∀ (approvals : Slot "approvals" 14) (before after : List Json) (value : Slot "value" 1),
        (∀ v, (approvals.fill v).get? "type" = some (.text type)) →
          Event.HingesOn provider
            (fun v => approvals.fill (.list (before ++ value.fill v :: after))) Json.WritesVote
            fun e s => ∀ votes, e.kind.approvals? = some votes →
              ∃ vote, votes[before.length]? = some vote ∧ vote.value = s := by
  refine ⟨fun change number htype => ?_, fun patchSet number htype => ?_,
    fun approvals before after value htype => ?_⟩
  · refine hingesOn_of_hinges habout change (by decide) htype
      (fun v n => Shape.numberOrText_eq_ok_iff) (ChangeRecord.hinges_changeNumber change number)
      fun record hrecord kind hkind _ n => ?_
    obtain ⟨c, hc, hn⟩ := hrecord n
    exact ⟨c, (hkind.change _).trans (congrArg some hc), hn⟩
  · refine hingesOn_of_hinges habout patchSet (by decide) htype
      (fun v n => Shape.numberOrText_eq_ok_iff)
      (ChangeRecord.hinges_patchSetNumber patchSet number)
      fun record hrecord kind hkind _ n p? hp => ?_
    rw [hkind.patchSet _ _ hp]
    exact hrecord n
  · refine hingesOn_of_hinges habout approvals (by decide) htype
      (fun v s => Shape.textOrNumber_eq_ok_iff)
      (ChangeRecord.hinges_voteValue approvals before after value)
      fun record hrecord kind hkind _ s votes hvotes => ?_
    rw [hkind.approvals _ _ hvotes]
    exact hrecord s

/-- A comment with a change written as an object, a patch set written as a list, and a vote: `+007`
among blanks is the number seven, what has no place among the numbers of 64 bits is bad data, and
the vote `2` is a text in either form. -/
theorem Event.hingesOn_numbers_of_comment :
    let type : String × Json := ("type", .text "comment-added")
    let change (v : Json) : Json :=
      .object [type, ("change", .object [("project", .text "tools"), ("number", v)])]
    let patchSet (v : Json) : Json :=
      .object [("patchSet", .list [v, .text "c0ffee"]), type,
        ("change", .object [("project", .text "tools")])]
    let vote (v : Json) : Json :=
      .object [type, ("change", .object [("project", .text "tools")]),
        ("approvals", .list [.object [("type", .text "Verified"), ("value", v)]])]
    ("comment-added" ∈ EventKind.aboutChange
        ∧ (∀ v, (change v).get? "type" = some (.text "comment-added"))
        ∧ (∀ v, (patchSet v).get? "type" = some (.text "comment-added"))
        ∧ ∀ v, (vote v).get? "type" = some (.text "comment-added"))
      ∧ (Event.HingesOn none change Json.WritesNumber
          fun e n => ∃ c, e.kind.change? = some c ∧ c.number = n)
      ∧ (Event.HingesOn none patchSet Json.WritesNumber
          fun e n => ∀ p?, e.kind.patchSet? = some p? → ∃ p, p? = some p ∧ p.number = n)
      ∧ (Event.HingesOn none vote Json.WritesVote fun e s => ∀ votes,
          e.kind.approvals? = some votes → ∃ vote, votes[0]? = some vote ∧ vote.value = s)
      ∧ (∃ e, Event.ofJson? none (change (.nat 7)) = .ok e
          ∧ Event.ofJson? none (change (.text " +007\n")) = .ok e)
      ∧ Event.ofJson? none (change (.nat (2 ^ 64))) = .error (.data .noForm)
      ∧ Event.ofJson? none (patchSet (.int (-7))) = .error (.data .noForm)
      ∧ ∃ e, Event.ofJson? none (vote (.int 2)) = .ok e
          ∧ Event.ofJson? none (vote (.text "2")) = .ok e :=
  have habout : "comment-added" ∈ EventKind.aboutChange := by decide
  ⟨⟨habout, fun _ => rfl, fun _ => rfl, fun _ => rfl⟩,
    (Event.hingesOn_numbers none habout).1 (.member [("type", .text "comment-added")] []
      (by decide)) (.member [("project", .text "tools")] [] (by decide)) fun _ => rfl,
    (Event.hingesOn_numbers none habout).2.1 (.member [] [("type", .text "comment-added"),
      ("change", .object [("project", .text "tools")])] (by decide))
      (.item [] [.text "c0ffee"] rfl) fun _ => rfl,
    (Event.hingesOn_numbers none habout).2.2 (.member [("type", .text "comment-added"),
      ("change", .object [("project", .text "tools")])] [] (by decide)) [] []
      (.member [("type", .text "Verified")] [] (by decide)) fun _ => rfl,
    ⟨_, rfl, rfl⟩, rfl, rfl, ⟨_, rfl, rfl⟩⟩

end ReviewStream

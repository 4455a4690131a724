import Mathlib.Tactic.Lemma
import Mathlib.Tactic.SplitIfs
import ReviewStream.Toml.Reader

/-!
# Integers of a document

Every integer of a document that can be read is one of 64 bits, with a sign.

* `Toml.IsBounded`: all integers in a value are.
* **`Toml.isBounded_of_read?`**: those of a document are.
-/

namespace ReviewStream

/-- An integer of 64 bits, with a sign. -/
def Int.IsWord (i : Int) : Prop := Int64.minValue.toInt ≤ i ∧ i ≤ Int64.maxValue.toInt

namespace Toml

open Json (Reading)

/-- All integers in a value are of 64 bits. -/
inductive IsBounded : Toml → Prop
  | text (s : String) : IsBounded (.text s)
  | integer {i : Int} (h : Int.IsWord i) : IsBounded (.integer i)
  | real (literal : String) : IsBounded (.real literal)
  | bool (b : Bool) : IsBounded (.bool b)
  | moment (literal : String) : IsBounded (.moment literal)
  | array {items : List Toml} (h : ∀ v ∈ items, IsBounded v) : IsBounded (.array items)
  | table {origin : Origin} {members : Members} (h : ∀ m ∈ members, IsBounded m.2) :
      IsBounded (.table origin members)
  | tables {items : List Toml} (h : ∀ v ∈ items, IsBounded v) : IsBounded (.tables items)

/-- All integers in some members are of 64 bits. -/
def Members.AreBounded (members : Members) : Prop := ∀ m ∈ members, IsBounded m.2

variable {v w : Toml} {cs rest : List Char} {members ms : Members} {key : String}
  {path : List String} {origin : Origin}

/-! ## Scalars -/

lemma isBounded_of_integer? {i : Int} (h : integer? i = some v) : v.IsBounded := by
  rw [integer?] at h
  split_ifs at h with hword
  cases h
  exact .integer hword

lemma isBounded_of_ofBase? {base : Nat} {digit : Char → Bool} (h : ofBase? base digit cs = some v) :
    v.IsBounded := by
  rw [ofBase?] at h
  split_ifs at h
  exact isBounded_of_integer? h

lemma isBounded_of_ofIntegerRun? (h : ofIntegerRun? cs = some v) : v.IsBounded := by
  unfold ofIntegerRun? at h
  split at h
  · exact isBounded_of_ofBase? h
  · exact isBounded_of_ofBase? h
  · exact isBounded_of_ofBase? h
  · dsimp only at h
    split_ifs at h <;> exact isBounded_of_integer? h

lemma isBounded_of_ofRealRun? (h : ofRealRun? cs = some v) : v.IsBounded := by
  simp only [ofRealRun?] at h
  split_ifs at h <;> cases h <;> exact .real _

lemma isBounded_of_ofRun? (h : ofRun? cs = some v) : v.IsBounded := by
  rw [ofRun?] at h
  split_ifs at h
  · cases h
    exact .bool true
  · cases h
    exact .bool false
  · cases h
    exact .moment _
  · rcases Option.or_eq_some_iff.mp h with hinteger | ⟨-, hreal⟩
    · exact isBounded_of_ofIntegerRun? hinteger
    · exact isBounded_of_ofRealRun? hreal

/-! ## Tables -/

/-- A change of what is under a key keeps integers bounded. -/
def Keeps (f : Option Toml → Option Toml) : Prop :=
  ∀ before after, (∀ v, before = some v → v.IsBounded) → f before = some after → after.IsBounded

lemma Members.AreBounded.nil : Members.AreBounded [] := fun _ hm => absurd hm List.not_mem_nil

lemma Members.areBounded_cons {m : String × Toml} :
    Members.AreBounded (m :: ms) ↔ m.2.IsBounded ∧ ms.AreBounded := List.forall_mem_cons

lemma isBounded_empty (origin : Origin) : (Toml.table origin []).IsBounded :=
  .table Members.AreBounded.nil

lemma areBounded_of_alter? {f : Option Toml → Option Toml} (hf : Keeps f)
    (h : alter? key f members = some ms) (hmembers : members.AreBounded) : ms.AreBounded := by
  induction members generalizing ms with
  | nil =>
      obtain ⟨v, hv, rfl⟩ := Option.map_eq_some_iff.mp h
      exact Members.areBounded_cons.mpr ⟨hf none v nofun hv, .nil⟩
  | cons m members ih =>
      obtain ⟨k, w⟩ := m
      obtain ⟨hw, hrest⟩ := Members.areBounded_cons.mp hmembers
      rw [alter?] at h
      split_ifs at h
      · obtain ⟨v, hv, rfl⟩ := Option.map_eq_some_iff.mp h
        refine Members.areBounded_cons.mpr ⟨hf (some w) v (fun u hu => ?_) hv, hrest⟩
        cases hu
        exact hw
      · obtain ⟨later, hlater, rfl⟩ := Option.map_eq_some_iff.mp h
        exact Members.areBounded_cons.mpr ⟨hw, ih hlater hrest⟩

lemma isBounded_of_alterLast? {f : Toml → Option Toml}
    (hf : ∀ v w, v.IsBounded → f v = some w → w.IsBounded) : ∀ {items vs : List Toml},
      alterLast? f items = some vs → (∀ v ∈ items, v.IsBounded) → ∀ v ∈ vs, v.IsBounded
  | [], _, h, _ => nomatch h
  | [v], _, h, hitems => by
      obtain ⟨w, hw, rfl⟩ := Option.map_eq_some_iff.mp h
      exact List.forall_mem_singleton.mpr (hf v w (hitems v List.mem_cons_self) hw)
  | v :: w :: items, _, h, hitems => by
      obtain ⟨vs, hvs, rfl⟩ := Option.map_eq_some_iff.mp h
      obtain ⟨hv, hrest⟩ := List.forall_mem_cons.mp hitems
      exact List.forall_mem_cons.mpr ⟨hv, isBounded_of_alterLast? hf hvs hrest⟩

/-- What goes down to a table and changes only that keeps integers bounded. -/
lemma areBounded_of_descend? {dotted : Bool} {f : Origin → Members → Option Members}
    (hf : ∀ made inner after, inner.AreBounded → f made inner = some after → after.AreBounded)
    (h : descend? dotted path f origin members = some ms) (hmembers : members.AreBounded) :
    ms.AreBounded := by
  induction path generalizing origin members ms with
  | nil => exact hf origin members ms hmembers h
  | cons key path ih =>
      -- A table below is changed as the induction says.
      have htable : ∀ {made : Origin} {inner : Members} {w : Toml}, inner.AreBounded →
          (descend? dotted path f made inner).map (.table made) = some w → w.IsBounded := by
        intro made inner w hinner hw
        obtain ⟨after, hafter, rfl⟩ := Option.map_eq_some_iff.mp hw
        exact .table (ih hafter hinner)
      refine areBounded_of_alter? (fun before after hbefore hafter => ?_) h hmembers
      split at hafter
      · exact htable .nil hafter
      · split_ifs at hafter
        cases hbefore _ rfl with
        | table hinner => exact htable hinner hafter
      · obtain ⟨vs, hvs, rfl⟩ := Option.map_eq_some_iff.mp hafter
        cases hbefore _ rfl with
        | tables hitems =>
            refine .tables (isBounded_of_alterLast? (fun v w hv hw => ?_) hvs hitems)
            split at hw
            · cases hv with
              | table hinner => exact htable hinner hw
            · cases hw
      · cases hafter

lemma areBounded_of_assign? {path : List String} (hv : v.IsBounded)
    (h : assign? path v origin members = some ms) (hmembers : members.AreBounded) :
    ms.AreBounded := by
  rw [assign?] at h
  split at h
  · cases h
  · refine areBounded_of_descend? (fun made inner after hinner hafter => ?_) h hmembers
    split_ifs at hafter
    refine areBounded_of_alter? (fun before w hbefore hw => ?_) hafter hinner
    split at hw
    · cases hw
      exact hv
    · cases hw

lemma areBounded_of_openTable? (h : openTable? path members = some ms)
    (hmembers : members.AreBounded) : ms.AreBounded := by
  rw [openTable?] at h
  split at h
  · cases h
  · refine areBounded_of_descend? (fun made inner after hinner hafter => ?_) h hmembers
    refine areBounded_of_alter? (fun before w hbefore hw => ?_) hafter hinner
    split at hw
    · cases hw
      exact isBounded_empty _
    · cases hw
      cases hbefore _ rfl with
      | table hopened => exact .table hopened
    · cases hw

lemma areBounded_of_openItem? (h : openItem? path members = some ms)
    (hmembers : members.AreBounded) : ms.AreBounded := by
  have hnew : (Toml.table .header []).IsBounded := isBounded_empty .header
  rw [openItem?] at h
  split at h
  · cases h
  · refine areBounded_of_descend? (fun made inner after hinner hafter => ?_) h hmembers
    refine areBounded_of_alter? (fun before w hbefore hw => ?_) hafter hinner
    split at hw
    · cases hw
      exact .tables (List.forall_mem_singleton.mpr hnew)
    · cases hw
      cases hbefore _ rfl with
      | tables hitems =>
          exact .tables (List.forall_mem_append.mpr
            ⟨hitems, List.forall_mem_singleton.mpr hnew⟩)
    · cases hw

/-! ## Values -/

/-- All that a reader of values answers is bounded. -/
def Bounds (value : List Char → Reading Toml) : Prop :=
  ∀ cs v rest, value cs = some (v, rest) → v.IsBounded

variable {value : List Char → Reading Toml} {fuel : Nat}

lemma isBounded_of_readItems (hvalue : Bounds value) {items : List Toml}
    (h : readItems value fuel cs = some (items, rest)) : ∀ v ∈ items, v.IsBounded := by
  induction fuel generalizing cs items rest with
  | zero => cases h
  | succ fuel ih =>
      rw [readItems] at h
      split at h
      · cases h
      · cases h
        exact fun _ hv => absurd hv List.not_mem_nil
      · split at h
        · cases h
        · next hread =>
          have hv := hvalue _ _ _ hread
          split at h
          · cases h
            exact List.forall_mem_singleton.mpr hv
          · obtain ⟨⟨vs, r'⟩, hrest, heq⟩ := Option.map_eq_some_iff.mp h
            cases heq
            exact List.forall_mem_cons.mpr ⟨hv, ih hrest⟩
          · cases h

lemma isBounded_of_readMember (hvalue : Bounds value) {member : List String × Toml}
    (h : readMember value cs = some (member, rest)) : member.2.IsBounded := by
  rw [readMember] at h
  split at h
  · split_ifs at h
    obtain ⟨⟨v, r⟩, hread, heq⟩ := Option.map_eq_some_iff.mp h
    cases heq
    exact hvalue _ _ _ hread
  · cases h

lemma areBounded_of_readMembers (hvalue : Bounds value)
    (h : readMembers value fuel members cs = some (ms, rest)) (hmembers : members.AreBounded) :
    ms.AreBounded := by
  induction fuel generalizing members cs with
  | zero => cases h
  | succ fuel ih =>
      rw [readMembers] at h
      split at h
      · cases h
      · next hread =>
        split at h
        · cases h
        · next hassign =>
          have hnext :=
            areBounded_of_assign? (isBounded_of_readMember hvalue hread) hassign hmembers
          split at h
          · cases h
            exact hnext
          · exact ih h hnext
          · cases h

lemma bounds_readValue : ∀ depth : Nat, Bounds (readValue depth)
  | 0 => fun _ _ _ h => nomatch h
  | depth + 1 => by
      intro cs v rest h
      rw [readValue.eq_def] at h
      dsimp only at h
      split at h
      · obtain ⟨⟨s, r⟩, -, heq⟩ := Option.map_eq_some_iff.mp h
        cases heq
        exact .text s
      · obtain ⟨⟨s, r⟩, -, heq⟩ := Option.map_eq_some_iff.mp h
        cases heq
        exact .text s
      · obtain ⟨⟨items, r⟩, hitems, heq⟩ := Option.map_eq_some_iff.mp h
        cases heq
        exact .array (isBounded_of_readItems (bounds_readValue depth) hitems)
      · split at h
        · cases h
          exact isBounded_empty _
        · obtain ⟨⟨ms, r⟩, hmembers, heq⟩ := Option.map_eq_some_iff.mp h
          cases heq
          exact .table (areBounded_of_readMembers (bounds_readValue depth) hmembers .nil)
      · obtain ⟨w, hrun, heq⟩ := Option.map_eq_some_iff.mp h
        cases heq
        exact isBounded_of_ofRun? hrun

/-! ## Documents -/

lemma areBounded_of_readLines (h : readLines fuel path members cs = some ms)
    (hmembers : members.AreBounded) : ms.AreBounded := by
  induction fuel generalizing path members cs with
  | zero => cases h
  | succ fuel ih =>
      rw [readLines] at h
      split at h
      · cases h
      · cases h
        exact hmembers
      · split at h
        · cases h
        · split at h
          · next hopen _ => exact ih h (areBounded_of_openItem? hopen hmembers)
          · cases h
      · split at h
        · cases h
        · split at h
          · next hopen _ => exact ih h (areBounded_of_openTable? hopen hmembers)
          · cases h
      · split at h
        · cases h
        · next hread =>
          have hv := isBounded_of_readMember (bounds_readValue depthLimit) hread
          split at h
          · next hassign _ =>
            refine ih h (areBounded_of_descend? (fun made inner after hinner hafter => ?_) hassign
              hmembers)
            exact areBounded_of_assign? hv hafter hinner
          · cases h

/-- **All integers of a document are of 64 bits.** -/
theorem isBounded_of_read? {s : String} (h : read? s = some v) : v.IsBounded := by
  obtain ⟨ms, hlines, rfl⟩ := Option.map_eq_some_iff.mp h
  exact .table (areBounded_of_readLines hlines .nil)

end Toml

end ReviewStream

import ReviewStream.Proofs.Json.Abridged

/-!
# A value in its surroundings

A slot is a record with one value taken out: an object without what is under a key, or a list
without what is at an index.  What the whole record is read as hinges on the value in the slot: if
the value is bad, so is the record; if it is read as some data, the surroundings alone decide
whether the record is read, and what they make of the data.

* `Json.Slot`, `Json.Slot.fill`: a record without a value, and with a value put in.
* `Json.Surroundings`: what surroundings make of a bad value, and of data.
* `Json.Hinges`: what is read hinges on what a value inside is read as.
* `Json.Hinges.comp`, `Json.Hinges.nullable`, `Json.Hinges.items`: a value deeper inside, in what
  may be null, and in a list.
* `Json.Fields.Lacks`, `Json.Fields.Has`: fields none of which, or one of which, is the one that
  reads the slot.
* **`Json.Fields.Has.hinges`**: a record hinges on the value of each of its fields.
-/

namespace ReviewStream.Json

variable {ε α β γ : Type} {key : String} {i : Nat} {v w : Json} {inner : Shape β}
  {P : (β → α) → Prop}

/-! ## Slots -/

/-- A record without one value: an object without what is under a key, the first one with that key,
or a list without what is at an index. -/
inductive Slot (key : String) (i : Nat) where
  | member (before after : List (String × Json)) (first : key ∉ before.map Prod.fst)
  | item (before after : List Json) (length_eq : before.length = i)

/-- Puts a value into a slot. -/
def Slot.fill : Slot key i → Json → Json
  | .member before after _, v => .object (before ++ (key, v) :: after)
  | .item before after _, v => .list (before ++ v :: after)

lemma Slot.fill_ne_null (slot : Slot key i) (v : Json) : slot.fill v ≠ .null := by
  cases slot <;> nofun

lemma find?_append_cons_self {before after : List (String × Json)}
    (first : key ∉ before.map Prod.fst) : find? key (before ++ (key, v) :: after) = some v := by
  induction before with
  | nil => exact if_pos rfl
  | cons m before ih =>
      rw [List.map_cons, List.mem_cons, not_or] at first
      rw [List.cons_append, find?, if_neg (Ne.symm first.1), ih first.2]

lemma find?_append_cons_ne {k : String} (hne : key ≠ k) (before after : List (String × Json))
    (v w : Json) :
    find? k (before ++ (key, v) :: after) = find? k (before ++ (key, w) :: after) := by
  induction before with
  | nil => rw [List.nil_append, List.nil_append, find?, find?, if_neg hne, if_neg hne]
  | cons m before ih => rw [List.cons_append, List.cons_append, find?, find?, ih]

/-- What is under another key does not depend on the value in a slot. -/
lemma Slot.get?_fill {k : String} (hne : key ≠ k) (slot : Slot key i) (v w : Json) :
    (slot.fill v).get? k = (slot.fill w).get? k := by
  cases slot with
  | member before after first => exact find?_append_cons_ne hne before after v w
  | item before after length_eq => rfl

lemma length_of_mapM_eq_ok {shape : Shape α} {vs : List Json} {as : List α}
    (h : vs.mapM shape = .ok as) : as.length = vs.length := by
  induction vs generalizing as with
  | nil =>
      cases h
      rfl
  | cons v vs ih =>
      rw [List.mapM_cons] at h
      obtain ⟨a, -, hrest⟩ := exists_of_bind_eq_ok h
      obtain ⟨rest, htail, hlast⟩ := exists_of_bind_eq_ok hrest
      cases hlast
      rw [List.length_cons, List.length_cons, ih htail]

/-! ## What hinges on a value -/

/-- What the surroundings of a value make of its fault, and of the data that it is read as. -/
structure Surroundings (ε α β : Type) where
  blame : Fault → ε
  make : Except ε (β → α)

/-- What is read in all, once a value is read in its surroundings. -/
def Surroundings.close (s : Surroundings ε α β) : Except Fault β → Except ε α
  | .error e => .error (s.blame e)
  | .ok b => s.make.map fun make => make b

/-- What is read hinges on what a value inside is read as, and what is made of this has a given
property. -/
def Hinges (inner : Shape β) (P : (β → α) → Prop) (read : Json → Except ε α) : Prop :=
  ∃ s : Surroundings ε α β, (∀ v, read v = s.close (inner v)) ∧ ∀ make, s.make = .ok make → P make

namespace Hinges

variable {read : Json → Except ε α}

lemma congr {other : Json → Except ε α} (h : Hinges inner P read) (heq : ∀ v, other v = read v) :
    Hinges inner P other := by
  obtain ⟨s, hread, hmake⟩ := h
  exact ⟨s, fun v => (heq v).trans (hread v), hmake⟩

/-- What is just the value inside. -/
lemma self (inner : Shape β) : Hinges inner (· = id) inner := by
  refine ⟨⟨id, .ok id⟩, fun v => ?_, ?_⟩
  · cases inner v <;> rfl
  · rintro _ ⟨⟩
    rfl

/-- What is read no matter what the value inside is. -/
lemma of_error {e : ε} (h : ∀ v, read v = .error e) : Hinges inner P read := by
  refine ⟨⟨fun _ => e, .error e⟩, fun v => ?_, nofun⟩
  rw [h v]
  cases inner v <;> rfl

/-- What is read afterwards does not look at the value inside. -/
lemma bind {Q : (β → γ) → Prop} {next : α → Except ε γ} (h : Hinges inner P read)
    (hnext : ∀ make, P make →
      ∃ rest : Except ε (β → γ), (∀ b, next (make b) = rest.map fun make => make b)
        ∧ ∀ make, rest = .ok make → Q make) :
    Hinges inner Q fun v => read v >>= next := by
  obtain ⟨⟨blame, make⟩, hread, hmake⟩ := h
  cases make with
  | error e =>
      refine ⟨⟨blame, .error e⟩, fun v => ?_, nofun⟩
      dsimp only
      rw [hread v]
      cases inner v <;> rfl
  | ok make =>
      obtain ⟨rest, hrest, hQ⟩ := hnext make (hmake make rfl)
      refine ⟨⟨blame, rest⟩, fun v => ?_, hQ⟩
      dsimp only
      rw [hread v]
      cases inner v with
      | error e => rfl
      | ok b => exact hrest b

/-- Data that are read are passed on. -/
lemma map {Q : (β → γ) → Prop} {k : α → γ} (h : Hinges inner P read)
    (hk : ∀ make, P make → Q fun b => k (make b)) :
    Hinges inner Q fun v => (read v).map k := by
  have hbind (v : Json) : (read v).map k = read v >>= fun a => .ok (k a) := by
    cases read v <;> rfl
  simp only [hbind]
  refine h.bind fun make hmake => ⟨.ok fun b => k (make b), fun b => rfl, ?_⟩
  rintro _ ⟨⟩
  exact hk make hmake

/-- What is read before does not look at the value inside. -/
lemma behind {first : Except ε γ} {read : γ → Json → Except ε α}
    (h : ∀ a, first = .ok a → Hinges inner P (read a)) :
    Hinges inner P fun v => first >>= fun a => read a v := by
  cases first with
  | error e => exact of_error fun v => rfl
  | ok a => exact h a rfl

/-- A value deeper inside. -/
lemma comp {mid : Shape β} {deep : Shape γ} {Q : (γ → β) → Prop} {R : (γ → α) → Prop}
    {place : Json → Json} (houter : Hinges mid P read)
    (hinner : Hinges deep Q fun v => mid (place v))
    (hboth : ∀ f g, P f → Q g → R fun c => f (g c)) : Hinges deep R fun v => read (place v) := by
  obtain ⟨⟨blame, make⟩, hread, hmake⟩ := houter
  obtain ⟨⟨deepBlame, deepMake⟩, hdeep, hdeepMake⟩ := hinner
  have hmid (v : Json) : mid (place v) = _ := hdeep v
  cases deepMake with
  | error e =>
      refine ⟨⟨fun e => blame (deepBlame e), .error (blame e)⟩, fun v => ?_, nofun⟩
      dsimp only
      rw [hread, hmid]
      cases deep v <;> rfl
  | ok g =>
      refine ⟨⟨fun e => blame (deepBlame e), make.map fun f c => f (g c)⟩, fun v => ?_, ?_⟩
      · dsimp only
        rw [hread, hmid]
        cases deep v with
        | error e => rfl
        | ok c => cases make <;> rfl
      · cases make with
        | error e => nofun
        | ok f =>
            rintro _ ⟨⟩
            exact hboth f g (hmake f rfl) (hdeepMake g rfl)

/-- A value inside what may be null but is not. -/
lemma nullable {shape : Shape α} {place : Json → Json} {Q : (β → Option α) → Prop}
    (h : Hinges inner P fun v => shape (place v)) (hplace : ∀ v, place v ≠ .null)
    (hQ : ∀ make, P make → Q fun b => some (make b)) :
    Hinges inner Q fun v => shape.nullable (place v) := by
  have hsome (v : Json) : shape.nullable (place v) = (shape (place v)).map some := by
    have hne := hplace v
    cases hv : place v with
    | null => exact absurd hv hne
    | _ => rfl
  simp only [hsome]
  exact h.map hQ

/-- A value inside one item of a list. -/
lemma items {shape : Shape α} {place : Json → Json} {Q : (β → List α) → Prop}
    (h : Hinges inner P fun v => shape (place v)) (before after : List Json)
    (hQ : ∀ (make : β → α) (front back : List α), P make → front.length = before.length →
      Q fun b => front ++ make b :: back) :
    Hinges inner Q fun v => shape.items (.list (before ++ place v :: after)) := by
  have hitems (v : Json) : shape.items (.list (before ++ place v :: after))
      = before.mapM shape >>= fun front => shape (place v) >>= fun a =>
        (after.mapM shape).map fun back => front ++ a :: back := by
    rw [Shape.items, List.mapM_append, List.mapM_cons]
    cases before.mapM shape with
    | error e => rfl
    | ok front =>
        cases shape (place v) with
        | error e => rfl
        | ok a => cases after.mapM shape <;> rfl
  simp only [hitems]
  refine behind fun front hfront => h.bind fun make hmake => ?_
  refine ⟨(after.mapM shape).map fun back b => front ++ make b :: back, fun b => ?_, ?_⟩
  · cases after.mapM shape <;> rfl
  · rintro _ hrest
    obtain ⟨back, -, rfl⟩ := exists_of_map_eq_ok hrest
    exact hQ make front back hmake (length_of_mapM_eq_ok hfront)

end Hinges

/-! ## Fields of a record -/

/-- No field is the one under a key, and every field takes one item of a list. -/
structure Fields.Lacks (f : Fields α) (key : String) : Prop where
  fault? : ∀ v, f.fault? key v = none
  ofMembers : ∀ before after v w,
    f.ofMembers (before ++ (key, v) :: after) = f.ofMembers (before ++ (key, w) :: after)
  ofItems : ∀ index short front, front.length = f.count →
    ∃ r : Except Fault α, ∀ back, f.ofItems index short (front ++ back) = r.map fun a => (a, back)

/-- One field is the one under a key and at an index, and all that is read hinges on it. -/
structure Fields.Has (f : Fields α) (key : String) (i : Nat) (inner : Shape β)
    (P : (β → α) → Prop) : Prop where
  fault? : ∀ v, f.fault? key v = faultOf (inner v)
  ofMembers : ∀ before after, key ∉ before.map Prod.fst →
    Hinges inner P fun v => f.ofMembers (before ++ (key, v) :: after)
  ofItems : ∀ index short before after, before.length = i →
    Hinges inner (fun make => ∃ m rest, P m ∧ make = fun b => (m b, rest))
      fun v => f.ofItems index short (before ++ v :: after)

/-- What is read by some fields has a property, in both of the ways to write a record. -/
structure Fields.Yields (f : Fields α) (S : α → Prop) : Prop where
  ofMembers : ∀ members a, f.ofMembers members = .ok a → S a
  ofItems : ∀ index short items a rest, f.ofItems index short items = .ok (a, rest) → S a

namespace Fields

variable {f : Fields (α → β)} {g : Fields α}

lemma ofMembers_seq_eq (f : Fields (α → β)) (g : Fields α) (members : List (String × Json)) :
    (f <*> g).ofMembers members
      = f.ofMembers members >>= fun k => (g.ofMembers members).map k := rfl

lemma ofItems_seq_eq (f : Fields (α → β)) (g : Fields α) (index : Nat) (short : Nat → Fault)
    (items : List Json) :
    (f <*> g).ofItems index short items
      = f.ofItems index short items >>= fun read =>
        (g.ofItems (index + f.count) short read.2).map fun next => (read.1 next.1, next.2) := rfl

lemma fault?_seq_eq (f : Fields (α → β)) (g : Fields α) (key : String) (v : Json) :
    (f <*> g).fault? key v = (f.fault? key v).or (g.fault? key v) := rfl

/-! ### The items of a list -/

/-- Every field takes one item of a list. -/
def TakesEach (f : Fields α) : Prop :=
  ∀ index short front, front.length = f.count →
    ∃ r : Except Fault α, ∀ back, f.ofItems index short (front ++ back) = r.map fun a => (a, back)

lemma takesEach_nothing (a : α) : (nothing a).TakesEach := by
  intro index short front hlength
  obtain rfl := List.length_eq_zero_iff.mp hlength
  exact ⟨.ok a, fun back => rfl⟩

lemma takesEach_field (key : String) (absent : Option α) (shape : Shape α) :
    (field key absent shape).TakesEach := by
  intro index short front hlength
  obtain ⟨v, rfl⟩ := List.length_eq_one_iff.mp hlength
  refine ⟨shape v, fun back => ?_⟩
  cases absent <;> rfl

lemma TakesEach.seq (hf : f.TakesEach) (hg : g.TakesEach) : (f <*> g).TakesEach := by
  intro index short front hlength
  have hcount : front.length = f.count + g.count := hlength
  obtain ⟨r, hr⟩ := hf index short (front.take f.count) (by
    rw [List.length_take]
    omega)
  obtain ⟨t, ht⟩ := hg (index + f.count) short (front.drop f.count) (by
    rw [List.length_drop]
    omega)
  refine ⟨r >>= fun k => t.map k, fun back => ?_⟩
  have hfront : front ++ back = front.take f.count ++ (front.drop f.count ++ back) := by
    rw [← List.append_assoc, List.take_append_drop]
  rw [ofItems_seq_eq, hfront, hr]
  cases r with
  | error e => rfl
  | ok k =>
      change (g.ofItems (index + f.count) short (front.drop f.count ++ back)).map _ = _
      rw [ht]
      cases t <;> rfl

/-! ### Fields without the one in the slot -/

lemma lacks_nothing (a : α) : (nothing a).Lacks key where
  fault? _ := rfl
  ofMembers _ _ _ _ := rfl
  ofItems := takesEach_nothing a

lemma lacks_field {k : String} (hne : key ≠ k) (absent : Option α) (shape : Shape α) :
    (field k absent shape).Lacks key where
  fault? _ := if_neg hne
  ofMembers before after v w := by
    rw [field]
    dsimp only
    rw [find?_append_cons_ne hne before after v w]
  ofItems := takesEach_field k absent shape

lemma Lacks.seq (hf : f.Lacks key) (hg : g.Lacks key) : (f <*> g).Lacks key where
  fault? v := by rw [fault?_seq_eq, hf.fault?, hg.fault?, Option.or_none]
  ofMembers before after v w := by
    rw [ofMembers_seq_eq, ofMembers_seq_eq, hf.ofMembers before after v w,
      hg.ofMembers before after v w]
  ofItems := TakesEach.seq hf.ofItems hg.ofItems

lemma Lacks.map {g : Fields α} (k : α → β) (hg : g.Lacks key) : (k <$> g).Lacks key :=
  Lacks.seq (f := .nothing k) (lacks_nothing k) hg

/-! ### What fields make -/

lemma Yields.seq {S : β → Prop} (hf : f.Yields fun k => ∀ a, S (k a)) (g : Fields α) :
    (f <*> g).Yields S where
  ofMembers members b hb := by
    rw [ofMembers_seq_eq] at hb
    obtain ⟨k, hk, hmap⟩ := exists_of_bind_eq_ok hb
    obtain ⟨a, -, rfl⟩ := exists_of_map_eq_ok hmap
    exact hf.ofMembers members k hk a
  ofItems index short items b rest hb := by
    rw [ofItems_seq_eq] at hb
    obtain ⟨⟨k, left⟩, hk, hmap⟩ := exists_of_bind_eq_ok hb
    obtain ⟨⟨a, last⟩, -, hlast⟩ := exists_of_map_eq_ok hmap
    cases hlast
    exact hf.ofItems index short items k left hk a

lemma yields_nothing {S : α → Prop} {a : α} (h : S a) : (nothing a).Yields S where
  ofMembers _ _ hb := by
    cases hb
    exact h
  ofItems _ _ _ _ _ hb := by
    cases hb
    exact h

lemma Yields.map {S : β → Prop} {k : α → β} (h : ∀ a, S (k a)) (g : Fields α) :
    (k <$> g).Yields S :=
  Yields.seq (f := .nothing k) (yields_nothing h) g

/-! ### Fields with the one in the slot -/

section Slot

variable {shape : Shape γ} {absent : Option γ}

/-- The field in the slot comes last. -/
lemma Has.last {f : Fields (γ → α)} {Q : (γ → α) → Prop} (hf : f.Lacks key)
    (hyields : f.Yields Q) (hcount : f.count = i) :
    (f <*> field key absent shape).Has key i shape Q where
  fault? v := by
    rw [fault?_seq_eq, hf.fault?, Option.none_or]
    exact if_pos rfl
  ofMembers before after first := by
    have hread (v : Json) : (f <*> field key absent shape).ofMembers (before ++ (key, v) :: after)
        = f.ofMembers (before ++ (key, .null) :: after) >>= fun k => (shape v).map k := by
      rw [ofMembers_seq_eq, hf.ofMembers before after v .null]
      congr 1
      funext k
      simp only [field, find?_append_cons_self first]
    simp only [hread]
    refine Hinges.behind fun k hk => (Hinges.self shape).map ?_
    rintro _ rfl
    exact hyields.ofMembers _ k hk
  ofItems index short before after hlength := by
    obtain ⟨r, hr⟩ := hf.ofItems index short before (hlength.trans hcount.symm)
    have hread (v : Json) :
        (f <*> field key absent shape).ofItems index short (before ++ v :: after)
          = r >>= fun k => (shape v).map fun a => (k a, after) := by
      rw [ofItems_seq_eq, hr]
      cases r with
      | error e => rfl
      | ok k => cases hv : shape v <;> simp [field, hv, Except.map, bind, Except.bind]
    simp only [hread]
    refine Hinges.behind fun k hk => (Hinges.self shape).map ?_
    rintro _ rfl
    refine ⟨k, after, hyields.ofItems index short before k [] ?_, rfl⟩
    rw [← List.append_nil before, hr, hk]
    rfl

/-- The field in the slot is the only one. -/
lemma Has.only {Q : (γ → α) → Prop} {k : γ → α} (h : Q k) :
    (k <$> field key absent shape).Has key 0 shape Q :=
  Has.last (f := .nothing k) (lacks_nothing k) (yields_nothing h) rfl

/-- The field in the slot is among the first ones. -/
lemma Has.seq {Q : (γ → β) → Prop} (hf : f.Has key i shape fun make => ∀ a, Q fun c => make c a)
    (hg : g.Lacks key) : (f <*> g).Has key i shape Q where
  fault? v := by rw [fault?_seq_eq, hf.fault?, hg.fault?, Option.or_none]
  ofMembers before after first := by
    have hread (v : Json) : (f <*> g).ofMembers (before ++ (key, v) :: after)
        = f.ofMembers (before ++ (key, v) :: after) >>= fun k =>
          (g.ofMembers (before ++ (key, .null) :: after)).map k := by
      rw [ofMembers_seq_eq, hg.ofMembers before after v .null]
    simp only [hread]
    refine (hf.ofMembers before after first).bind fun make hmake => ?_
    refine ⟨(g.ofMembers (before ++ (key, .null) :: after)).map fun a c => make c a,
      fun c => ?_, ?_⟩
    · cases g.ofMembers (before ++ (key, .null) :: after) <;> rfl
    · intro _ hrest
      obtain ⟨a, -, rfl⟩ := exists_of_map_eq_ok hrest
      exact hmake a
  ofItems index short before after hlength := by
    simp only [ofItems_seq_eq]
    refine (hf.ofItems index short before after hlength).bind ?_
    rintro _ ⟨make, rest, hmake, rfl⟩
    refine ⟨(g.ofItems (index + f.count) short rest).map fun next c => (make c next.1, next.2),
      fun c => ?_, ?_⟩
    · cases g.ofItems (index + f.count) short rest <;> rfl
    · intro _ hrest
      obtain ⟨next, -, rfl⟩ := exists_of_map_eq_ok hrest
      exact ⟨fun c => make c next.1, next.2, hmake next.1, rfl⟩

end Slot

/-! ## Records -/

lemma firstFault?_append (f : Fields α) (front back : List (String × Json)) :
    f.firstFault? (front ++ back) = (f.firstFault? front).or (f.firstFault? back) := by
  induction front with
  | nil => rfl
  | cons m front ih => rw [List.cons_append, firstFault?, firstFault?, ih, Option.or_assoc]

end Fields

/-- What is read only if neither the value inside nor anything behind it is bad. -/
lemma Hinges.guarded {read : Json → Except Fault α} (h : Hinges inner P read)
    (late : Option Fault) :
    Hinges inner P fun v =>
      match (faultOf (inner v)).or late with
      | some e => .error e
      | none => read v := by
  obtain ⟨⟨blame, make⟩, hread, hmake⟩ := h
  cases late with
  | some e =>
      refine ⟨⟨id, .error e⟩, fun v => ?_, nofun⟩
      dsimp only
      cases inner v <;> rfl
  | none =>
      refine ⟨⟨id, make⟩, fun v => ?_, hmake⟩
      dsimp only
      rw [hread v]
      cases inner v <;> rfl

/-- **A record hinges on the value of each of its fields**, whether it is an object or a list. -/
theorem Fields.Has.hinges {f : Fields α} (h : f.Has key i inner P) (name : String)
    (slot : Slot key i) : Hinges inner P fun v => Shape.record name f (slot.fill v) := by
  cases slot with
  | member before after first =>
      cases hbefore : f.firstFault? before with
      | some e =>
          refine .of_error (e := e) fun v => ?_
          rw [Slot.fill, Shape.record, firstFault?_append, hbefore]
          rfl
      | none =>
          refine ((h.ofMembers before after first).guarded (f.firstFault? after)).congr fun v => ?_
          rw [Slot.fill, Shape.record, firstFault?_append, hbefore, firstFault?, h.fault?]
          rfl
  | item before after hlength =>
      have hread (v : Json) :
          Shape.record name f ((Slot.item before after hlength : Slot key i).fill v)
          = f.ofItems 0 (.tooShort · name f.count) (before ++ v :: after) >>= fun read =>
            if read.2.isEmpty then .ok read.1
            else .error (.tooLong (before ++ .null :: after).length) := by
        rw [Slot.fill, Shape.record, List.length_append, List.length_cons, List.length_append,
          List.length_cons]
        rfl
      simp only [hread]
      refine (h.ofItems 0 _ before after hlength).bind ?_
      rintro _ ⟨make, rest, hmake, rfl⟩
      by_cases hrest : rest.isEmpty
      · refine ⟨.ok make, fun b => if_pos hrest, ?_⟩
        rintro _ ⟨⟩
        exact hmake
      · refine ⟨.error _, fun b => if_neg hrest, ?_⟩
        rintro _ ⟨⟩

end ReviewStream.Json
